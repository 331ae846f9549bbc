import AccessorSynthesis.Source.Document

/-!
# Sources

The documents of a compilation. Spans refer to them by number, counted from zero.
-/

namespace AccessorSynthesis

/-- The documents of a compilation. -/
structure Sources where
  documents : List Document

namespace Sources

/-- The document with a number. -/
def get? (sources : Sources) (file : Nat) : Option Document := sources.documents[file]?

/-- The number of documents. -/
def size (sources : Sources) : Nat := sources.documents.length

/-- The paths of the documents, one in a line. -/
def text (sources : Sources) : String := "\n".intercalate (sources.documents.map Document.path)

end Sources

end AccessorSynthesis
