import RustMist.Construction.Core.Catalog
import RustMist.Library.Replace
import RustMist.Library.UrlPath
import RustMist.Library.Utf8

/-! The operations that are suggested for an unknown operation. A computation without a result is
one that panics. -/

namespace RustMist.Similarity

section Texts

/-- The text from an offset in bytes on. -/
def sliceFrom (text : String) (offset : Nat) : Option String :=
  (Utf8.dropBytes offset text.toList).map String.ofList

/-- An entry of a vector is replaced. -/
def setAt (row : List Nat) (index value : Nat) : Option (List Nat) :=
  if index < row.length then some (row.set index value) else none

end Texts

-- The lower case of a text, as the standard library gives it.
variable (toLowercase : String → String)

section Distance

variable (aChars bChars : List Char)

/-- The entries of the current row are filled from the given column on. -/
def fillRow (i : Nat) (prevRow : List Nat) (j : Nat) :
    Nat → List Nat → Option (List Nat)
  | 0, currRow => some currRow
  | left + 1, currRow => do
      let first ← aChars[i - 1]?
      let second ← bChars[j - 1]?
      let cost := if first = second then 0 else 1
      let deletion ← prevRow[j]?
      let insertion ← currRow[j - 1]?
      let substitution ← prevRow[j - 1]?
      let currRow ← setAt currRow j
        (min (min (deletion + 1) (insertion + 1)) (substitution + cost))
      fillRow i prevRow (j + 1) left currRow

/-- The rows are swapped after each pass. -/
def fillRows (i : Nat) : Nat → List Nat → List Nat → Option (List Nat)
  | 0, prevRow, _ => some prevRow
  | left + 1, prevRow, currRow => do
      let currRow ← setAt currRow 0 i
      let currRow ← fillRow aChars bChars i prevRow 1 bChars.length currRow
      fillRows (i + 1) left currRow prevRow

end Distance

def levenshteinDistance (a b : String) : Option Nat :=
  let aChars := (toLowercase a).toList
  let bChars := (toLowercase b).toList
  let m := aChars.length
  let n := bChars.length
  if m = 0 then some n
  else if n = 0 then some m
  else do
    let row ← fillRows aChars bChars 1 m (List.range (n + 1)) (List.replicate (n + 1) 0)
    row[n]?

/-- The parts of the boost for common tokens. -/
structure TokenBoost where
  command : Bool
  device : Bool
  suffix : Bool

def containsAny (tokens : List String) (text : String) : Bool :=
  tokens.any fun token => containsText token text

/-- The last five bytes of a text. -/
def suffix (text : String) : Option String :=
  if text.utf8ByteSize ≥ 5 then sliceFrom text (text.utf8ByteSize - 5) else some text

def tokenSimilarityBoost (unknownId candidateId : String) : Option TokenBoost := do
  let unknownLower := toLowercase unknownId
  let candidateLower := toLowercase candidateId
  let command := containsAny ["cmd", "command"] unknownLower &&
    containsAny ["cmd", "command"] candidateLower
  let device := containsAny ["device", "ssh", "switch", "router"] unknownLower &&
    containsAny ["device", "ssh", "switch", "router"] candidateLower
  let unknownSuffix ← suffix unknownLower
  let candidateSuffix ← suffix candidateLower
  let suffixDistance ← levenshteinDistance toLowercase unknownSuffix candidateSuffix
  some ⟨command, device, suffixDistance ≤ 2⟩

/-- The integers and flags of which a score is computed. -/
structure ScoreParts where
  distance : Nat
  maxLen : Nat
  commonPrefixLen : Nat
  tokens : TokenBoost

-- The floating-point scores, the smallest one, the bound on the distance and the order.
variable {Score : Type} (scoreOf : ScoreParts → Score) (zero : Score)
  (withinRatio : Nat → Nat → Bool) (orderedBefore : Score × String → Score × String → Bool)

def similarityScore (unknownId candidateId : String) : Option Score := do
  let distance ← levenshteinDistance toLowercase unknownId candidateId
  let maxLen := max unknownId.utf8ByteSize candidateId.utf8ByteSize
  if maxLen = 0 then some zero
  else do
    let unknownLower := toLowercase unknownId
    let candidateLower := toLowercase candidateId
    let commonPrefixLen := ((unknownLower.toList.zip candidateLower.toList).takeWhile
      fun letters => letters.1 == letters.2).length
    let tokens ← tokenSimilarityBoost toLowercase unknownId candidateId
    some (scoreOf ⟨distance, maxLen, commonPrefixLen, tokens⟩)

structure Candidate (Score : Type) where
  operation : MistOperation
  score : Score
  distance : Nat

def candidates (unknownId : String) : List MistOperation → Option (List (Candidate Score))
  | [] => some []
  | operation :: rest => do
      let distance ← levenshteinDistance toLowercase unknownId operation.operationId
      if distance = 0 then candidates unknownId rest
      else do
        let score ← similarityScore toLowercase scoreOf zero unknownId operation.operationId
        let others ← candidates unknownId rest
        if withinRatio distance
            (max unknownId.utf8ByteSize operation.operationId.utf8ByteSize) then
          some (⟨operation, score, distance⟩ :: others)
        else some others

def maxSuggestions : Nat := 3

def findSimilarOperations (catalog : Catalog) (unknownId : String) :
    Option (List (String × Nat × MistCapability)) := do
  let found ← candidates toLowercase scoreOf zero withinRatio unknownId catalog.operations
  let sorted := found.mergeSort fun first second =>
    orderedBefore (first.score, first.operation.operationId)
      (second.score, second.operation.operationId)
  some ((sorted.take maxSuggestions).map fun candidate =>
    (candidate.operation.operationId, candidate.distance, candidate.operation.capability))

end RustMist.Similarity
