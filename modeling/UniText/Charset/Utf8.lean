import UniText.Charset.Step

/-! UTF-8: code points as sequences of one to four bytes. -/

namespace UniText.Utf8

/-- A trail byte continues a sequence and never begins one. -/
def isTrail (byte : UInt8) : Bool := byte.toNat / 0x40 = 2

/-- The number of bytes that a code point takes, if UTF-8 can carry it. -/
def length? (code : CodePoint) : Option Nat :=
  if code ≤ 0x7F then some 1
  else if code ≤ 0x7FF then some 2
  else if CodePoint.isSurrogate code then none
  else if code ≤ 0xFFFF then some 3
  else if code ≤ CodePoint.last then some 4
  else none

/-- The length of the sequences that a byte begins, zero when it begins none.

The bytes C0 and C1 count as leads, so that an overlong pair is taken as one piece. -/
def sequenceLength (lead : UInt8) : Nat :=
  if lead < 0x80 then 1
  else if lead < 0xC0 then 0
  else if lead < 0xE0 then 2
  else if lead < 0xF0 then 3
  else if lead < 0xF5 then 4
  else 0

/-- The first and last byte that may follow a lead at once.

Four leads admit fewer trail bytes: those that would not be overlong, a surrogate or too large. -/
def firstTrail (lead : UInt8) : UInt8 × UInt8 :=
  if lead = 0xE0 then (0xA0, 0xBF)
  else if lead = 0xED then (0x80, 0x9F)
  else if lead = 0xF0 then (0x90, 0xBF)
  else if lead = 0xF4 then (0x80, 0x8F)
  else (0x80, 0xBF)

/-- The bits of the code point that a lead holds itself. -/
def leadBits (lead : UInt8) (length : Nat) : Nat := lead.toNat % (0x80 >>> length)

/-- Reads the trail bytes that are still due, of which the next must lie within the given range.

The bytes used up so far are counted, for the length of the step. -/
def trails (atEnd : Bool) (code used : Nat) : (due : Nat) → (range : UInt8 × UInt8) →
    List UInt8 → Step
  | 0, _, _ => ⟨.scalar (UInt32.ofNat code), used⟩
  | _ + 1, _, [] => Step.cutOff atEnd used
  | due + 1, range, byte :: rest =>
    -- A byte outside its range ends the maximal subpart just before it.
    if byte < range.1 || range.2 < byte then ⟨.illegal, used⟩
    else trails atEnd (code * 0x40 + byte.toNat % 0x40) (used + 1) due (0x80, 0xBF) rest

/-- The step for a lead that could only begin an overlong pair. -/
def overlong (atEnd : Bool) : List UInt8 → Step
  | byte :: _ => if isTrail byte then ⟨.illegal, 2⟩ else ⟨.illegal, 1⟩
  | [] => if atEnd then ⟨.illegal, 1⟩ else ⟨.incomplete, 0⟩

/-- Reads the character at the front of some bytes. -/
def next (bytes : List UInt8) (atEnd : Bool) : Step :=
  match bytes with
  | [] => Step.cutOff atEnd 0
  | lead :: rest =>
    let length := sequenceLength lead
    -- Ill-formed input is used up one maximal subpart at a time.
    if length = 0 then ⟨.illegal, 1⟩
    else if length = 1 then ⟨.scalar lead.toUInt32, 1⟩
    else if length = 2 ∧ lead < 0xC2 then overlong atEnd rest
    else trails atEnd (leadBits lead length) 1 (length - 1) (firstTrail lead) rest

/-- A trail byte that holds the lowest six bits of a number. -/
def trailOf (bits : Nat) : UInt8 := UInt8.ofNat (0x80 + bits % 0x40)

/-- The bytes of a code point, in the shortest form. -/
def encode (code : CodePoint) : Except Fault (List UInt8) :=
  let bits := code.toNat
  -- Each trail byte takes six bits, and the lead takes what remains.
  match length? code with
  | none => .error .illegalSequence
  | some 1 => .ok [UInt8.ofNat bits]
  | some 2 => .ok [UInt8.ofNat (0xC0 + bits / 0x40), trailOf bits]
  | some 3 => .ok [UInt8.ofNat (0xE0 + bits / 0x1000), trailOf (bits / 0x40), trailOf bits]
  | some _ =>
    .ok [UInt8.ofNat (0xF0 + bits / 0x40000), trailOf (bits / 0x1000), trailOf (bits / 0x40),
      trailOf bits]

/-- The byte sequences of the well-formed code unit table, one row per pattern. -/
def wellFormedRows : List (List (UInt8 × UInt8)) :=
  [[(0x00, 0x7F)],
    [(0xC2, 0xDF), (0x80, 0xBF)],
    [(0xE0, 0xE0), (0xA0, 0xBF), (0x80, 0xBF)],
    [(0xE1, 0xEC), (0x80, 0xBF), (0x80, 0xBF)],
    [(0xED, 0xED), (0x80, 0x9F), (0x80, 0xBF)],
    [(0xEE, 0xEF), (0x80, 0xBF), (0x80, 0xBF)],
    [(0xF0, 0xF0), (0x90, 0xBF), (0x80, 0xBF), (0x80, 0xBF)],
    [(0xF1, 0xF3), (0x80, 0xBF), (0x80, 0xBF), (0x80, 0xBF)],
    [(0xF4, 0xF4), (0x80, 0x8F), (0x80, 0xBF), (0x80, 0xBF)]]

/-- What is left after a row of byte ranges, if the bytes begin with such a row. -/
def matchRow? : List (UInt8 × UInt8) → List UInt8 → Option (List UInt8)
  | [], rest => some rest
  | _ :: _, [] => none
  | range :: ranges, byte :: rest =>
    if range.1 ≤ byte && byte ≤ range.2 then matchRow? ranges rest else none

/-- A matched row leaves at most what there was. -/
theorem length_le_of_matchRow? {row : List (UInt8 × UInt8)} {bytes rest : List UInt8}
    (matched : matchRow? row bytes = some rest) : rest.length + row.length = bytes.length := by
  -- Each range of the row takes one byte.
  induction row generalizing bytes with
  | nil =>
    simp only [matchRow?, Option.some.injEq] at matched
    simp [matched]
  | cons range ranges ih =>
    cases bytes with
    | nil => simp [matchRow?] at matched
    | cons byte bytes =>
      simp only [matchRow?] at matched
      split at matched
      · simp only [List.length_cons]
        have := ih matched
        omega
      · simp at matched

/-- Every row of the table covers at least one byte. -/
theorem wellFormedRows_pos : ∀ row ∈ wellFormedRows, 0 < row.length := by decide

/-- Some bytes are well-formed when rows of the table cover them from end to end. -/
def wellFormed (bytes : List UInt8) : Bool :=
  if bytes.isEmpty then true
  else match _found : wellFormedRows.findSome? fun row => matchRow? row bytes with
    | some rest => wellFormed rest
    | none => false
termination_by bytes.length
decreasing_by
  -- The row that matched took at least one byte.
  obtain ⟨row, member, matched⟩ := List.exists_of_findSome?_eq_some _found
  have taken := length_le_of_matchRow? matched
  have positive := wellFormedRows_pos row member
  omega

end UniText.Utf8
