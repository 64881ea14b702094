/-!
# Glob patterns

A pattern selects names: a star stands for any text, a question mark for one character, and brackets
for one character of a set. A set may hold ranges, and a leading exclamation mark turns it into its
complement; a closing bracket that comes first is a member, and a bracket that is never closed stands
for itself. A range whose ends are reversed holds nothing and vanishes.

Matching goes through the text once from its end and keeps, for every tail of the pattern, whether it
stands for what has been passed (`row`), so its cost is the product of the two lengths.
-/

namespace SchemaScribe.Text.Glob

/-- A member of a set: the characters from `first` to `last`. -/
structure Range where
  first : Char
  last : Char
deriving DecidableEq

/-- One element of a pattern. -/
inductive Element where
  | literal (c : Char)
  | any
  | star
  | oneOf (complement : Bool) (members : List Range)
deriving DecidableEq

/-- A single member. -/
def Range.single (c : Char) : Range := ⟨c, c⟩

theorem behindHyphen_shorter {lead : Nat} {body rest : List Char} {hyphen : Char}
    (h : (body.drop lead).dropWhile (· ≠ '-') = hyphen :: rest) : rest.length < body.length := by
  have hle := (List.dropWhile_suffix (l := body.drop lead) (· ≠ '-')).length_le
  rw [h, List.length_cons, List.length_drop] at hle
  omega

/-- Cuts the body of a set at the hyphens of its ranges: a hyphen makes a range if at least `lead`
characters stand before it since the last one, and something stands behind it. -/
def chunks (lead : Nat) (body : List Char) : List (List Char) :=
  match h : (body.drop lead).dropWhile (· ≠ '-') with
  | [] => [body]
  | _ :: rest =>
    have := behindHyphen_shorter h
    if rest.isEmpty then [body]
    else (body.take lead ++ (body.drop lead).takeWhile (· ≠ '-')) :: chunks 2 rest
termination_by body.length

/-- Puts a chunk in front of others. If it makes a reversed range with the first of them, the range
vanishes with its ends. -/
def joinChunk (chunk : List Char) : List (List Char) → List (List Char)
  | next :: more =>
    match chunk.getLast?, next.head? with
    | some first, some last =>
      if last < first then (chunk.dropLast ++ next.drop 1) :: more else chunk :: next :: more
    | _, _ => chunk :: next :: more
  | [] => [chunk]

/-- The members that chunks spell: between two of them lies a range, or the hyphen itself where nothing is
left in front of it. -/
def members : List (List Char) → List Range
  | [] => []
  | [chunk] => chunk.map .single
  | chunk :: next :: more =>
    match chunk.getLast?, next with
    | some first, last :: rest =>
      chunk.dropLast.map .single ++ ⟨first, last⟩ :: members (rest :: more)
    | _, _ => chunk.map .single ++ .single '-' :: members (next :: more)
termination_by chunks => chunks.length

/-- The element that a set denotes. The exclamation mark is looked for after reversed ranges have
vanished, so one that they uncover complements the set as well. -/
def setElement (body : List Char) : Element :=
  match (chunks (if body.head? = some '!' then 2 else 1) body).foldr joinChunk [] with
  | ('!' :: chunk) :: more => .oneOf true (members (chunk :: more))
  | found => .oneOf false (members found)

/-- How many characters at the front of a set cannot close it. -/
def setLead : List Char → Nat
  | '!' :: ']' :: _ => 2
  | '!' :: _ => 1
  | ']' :: _ => 1
  | _ => 0

/-- Splits what follows an opening bracket into the body of the set and the rest, if it is closed. -/
def closeSet (s : List Char) : Option (List Char × List Char) :=
  match (s.drop (setLead s)).dropWhile (· ≠ ']') with
  | [] => none
  | _ :: rest => some (s.take (setLead s) ++ (s.drop (setLead s)).takeWhile (· ≠ ']'), rest)

theorem closeSet_shorter {s body rest : List Char} (h : closeSet s = some (body, rest)) :
    rest.length < s.length := by
  unfold closeSet at h
  split at h
  · simp at h
  · next c tail heq =>
    simp only [Option.some.injEq, Prod.mk.injEq] at h
    have hle := ((List.dropWhile_suffix (l := s.drop (setLead s)) (· ≠ ']'))).length_le
    rw [heq] at hle
    simp only [List.length_cons, List.length_drop] at hle
    rw [← h.2]
    omega

/-- The elements of a pattern. -/
def elements (pattern : List Char) : List Element :=
  match pattern with
  | [] => []
  | '*' :: rest => .star :: elements rest
  | '?' :: rest => .any :: elements rest
  | '[' :: rest =>
    match h : closeSet rest with
    | none => .literal '[' :: elements rest
    | some (body, rest') =>
      have := closeSet_shorter h
      setElement body :: elements rest'
  | c :: rest => .literal c :: elements rest
termination_by pattern.length
decreasing_by all_goals simp_wf <;> omega

/-- Whether an element other than the star stands for a character. -/
def Element.admits : Element → Char → Bool
  | .literal d, c => c == d
  | .any, _ => true
  | .star, _ => false
  | .oneOf complement members, c =>
    members.any (fun range => range.first ≤ c && c ≤ range.last) != complement

/-- For each tail of the elements, the longest first, whether it stands for the empty text. -/
def lastRow : List Element → List Bool
  | [] => [true]
  | e :: rest =>
    let below := lastRow rest
    (e = .star && below.headD false) :: below

/-- The row of a text from the row of what stands behind its first character. -/
def rowBefore (c : Char) : List Element → List Bool → List Bool
  | e :: rest, here :: behind =>
    let below := rowBefore c rest behind
    (if e = .star then below.headD false || here else e.admits c && behind.headD false) :: below
  | _, _ => [false]

/-- For each tail of the elements, the longest first, whether it stands for the whole text. -/
def row (elements : List Element) (text : List Char) : List Bool :=
  text.foldr (fun c below => rowBefore c elements below) (lastRow elements)

/-- Whether the elements stand for the whole text. -/
def matchesAll (elements : List Element) (text : List Char) : Bool := (row elements text).headD false

/-! ## What matching comes to, element by element -/

theorem row_ne_nil (elements : List Element) (text : List Char) : row elements text ≠ [] := by
  cases text with
  | nil => cases elements <;> simp [row, lastRow]
  | cons c text =>
    rw [row, List.foldr_cons]
    unfold rowBefore
    split <;> simp

theorem row_tail (e : Element) (rest : List Element) (text : List Char) :
    (row (e :: rest) text).tail = row rest text := by
  induction text with
  | nil => rfl
  | cons c text ih =>
    cases h : row (e :: rest) text with
    | nil => exact absurd h (row_ne_nil _ _)
    | cons here behind =>
      rw [h, List.tail_cons] at ih
      simp only [row, List.foldr_cons] at h ih ⊢
      rw [h, rowBefore, List.tail_cons, ih]

theorem row_eq (e : Element) (rest : List Element) (text : List Char) :
    row (e :: rest) text = matchesAll (e :: rest) text :: row rest text := by
  cases h : row (e :: rest) text with
  | nil => exact absurd h (row_ne_nil _ _)
  | cons here behind =>
    have ht := row_tail e rest text
    rw [h, List.tail_cons] at ht
    rw [matchesAll, h, ht, List.headD_cons]

theorem row_cons (elements : List Element) (c : Char) (text : List Char) :
    row elements (c :: text) = rowBefore c elements (row elements text) := rfl

@[simp] theorem matchesAll_nil_nil : matchesAll [] [] = true := rfl

@[simp] theorem matchesAll_nil_cons (c : Char) (text : List Char) :
    matchesAll [] (c :: text) = false := rfl

/-- A star may stand for nothing, or take one more character. -/
@[simp] theorem matchesAll_star_cons (rest : List Element) (c : Char) (text : List Char) :
    matchesAll (.star :: rest) (c :: text) =
      (matchesAll rest (c :: text) || matchesAll (.star :: rest) text) := by
  rw [matchesAll, row_cons, row_eq, rowBefore, ← row_cons]
  simp [matchesAll]

@[simp] theorem matchesAll_cons_nil (e : Element) (rest : List Element) :
    matchesAll (e :: rest) [] = (e = .star && matchesAll rest []) := rfl

/-- Any other element stands for exactly one character. -/
theorem matchesAll_cons_cons {e : Element} (h : e ≠ .star) (rest : List Element) (c : Char)
    (text : List Char) :
    matchesAll (e :: rest) (c :: text) = (e.admits c && matchesAll rest text) := by
  rw [matchesAll, row_cons, row_eq, rowBefore]
  simp [matchesAll, h]

end SchemaScribe.Text.Glob

namespace SchemaScribe.Text

/-- Whether a name matches a glob pattern as a whole. -/
def globMatches (pattern name : String) : Bool :=
  Glob.matchesAll (Glob.elements pattern.toList) name.toList

end SchemaScribe.Text
