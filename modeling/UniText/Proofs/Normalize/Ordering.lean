import Mathlib.Data.List.Chain
import UniText.Proofs.Normalize.Frame

/-! Canonical order: what the reordering buffer makes of a text, by one insertion after another. -/

namespace UniText

/-- Puts a code point on top of a reversed text, but a mark below all marks of a greater class. -/
def place (classOf : CodePoint → UInt8) : (reversed : List CodePoint) → CodePoint → List CodePoint
  | [], code => [code]
  | other :: reversed, code =>
    -- A starter always stays on top, as does a mark of a class that is not lower.
    if classOf code ≠ 0 ∧ classOf code < classOf other then other :: place classOf reversed code
    else code :: other :: reversed

/-- A source in canonical order, each of its code points in turn being put to those before it. -/
def arrange (classOf : CodePoint → UInt8) (source : List CodePoint) : List CodePoint :=
  (source.foldl (place classOf) []).reverse

/-- A code point of one class may stand just behind one of another class. -/
def InOrder (before after : UInt8) : Prop := after = 0 ∨ before ≤ after

/-- The class of the last code point of a text, zero if there is none. -/
def lastClassOf (classOf : CodePoint → UInt8) (text : List CodePoint) : UInt8 :=
  (text.map classOf).getLastD 0

/-- A text may stand behind a given class, and no mark of it just behind one of a greater class. -/
def OrderedAfter (classOf : CodePoint → UInt8) (before : UInt8) (text : List CodePoint) : Prop :=
  (before :: text.map classOf).IsChain InOrder

/-- No mark of a text stands just behind one of a greater class. -/
def Ordered (classOf : CodePoint → UInt8) (text : List CodePoint) : Prop :=
  OrderedAfter classOf 0 text

section Arrange

variable {classOf : CodePoint → UInt8}

/-- Anything may stand at the start of a text. -/
@[simp] theorem inOrder_zero (after : UInt8) : InOrder 0 after :=
  .inr (UInt8.le_iff_toNat_le.mpr (Nat.zero_le _))

/-- What may stand behind a class may stand behind any lower one. -/
theorem InOrder.mono {lower before after : UInt8} (below : lower ≤ before)
    (fits : InOrder before after) : InOrder lower after :=
  fits.imp id (UInt8.le_trans below)

@[simp] theorem lastClassOf_nil : lastClassOf classOf [] = 0 := rfl

@[simp] theorem lastClassOf_append_singleton (text : List CodePoint) (code : CodePoint) :
    lastClassOf classOf (text ++ [code]) = classOf code := by
  simp [lastClassOf]

@[simp] theorem orderedAfter_nil (before : UInt8) : OrderedAfter classOf before [] := .singleton _

@[simp] theorem orderedAfter_cons {before : UInt8} {code : CodePoint} {text : List CodePoint} :
    OrderedAfter classOf before (code :: text) ↔
      InOrder before (classOf code) ∧ OrderedAfter classOf (classOf code) text :=
  -- A chain begins with its first link.
  List.isChain_cons_cons

@[simp] theorem ordered_nil : Ordered classOf [] := orderedAfter_nil 0

/-- A text is ordered exactly when its parts are, and the second may stand behind the first. -/
theorem ordered_append {text rest : List CodePoint} :
    Ordered classOf (text ++ rest) ↔
      Ordered classOf text ∧ OrderedAfter classOf (lastClassOf classOf text) rest := by
  unfold Ordered OrderedAfter lastClassOf
  rw [List.map_append, ← List.cons_append, List.isChain_append, List.getLast?_cons,
    List.isChain_cons (x := (text.map classOf).getLastD 0)]
  -- Only the last class of the one and the first of the other meet.
  simp only [Option.mem_some, forall_eq', and_comm, List.getLastD_eq_getLast?]

@[simp] theorem ordered_append_singleton {text : List CodePoint} {code : CodePoint} :
    Ordered classOf (text ++ [code]) ↔
      Ordered classOf text ∧ InOrder (lastClassOf classOf text) (classOf code) := by
  -- The last code point has to be in order behind those before it.
  simp [ordered_append]

/-- Only the classes of a text say whether it is ordered, and which class is the last. -/
theorem ordered_congr {text other : List CodePoint} (same : other.map classOf = text.map classOf) :
    (Ordered classOf other ↔ Ordered classOf text) ∧
      lastClassOf classOf other = lastClassOf classOf text := by
  -- Only the classes matter to the order.
  simp only [Ordered, OrderedAfter, lastClassOf, same, and_self]

/-- What may stand behind the text is put on top of it. -/
theorem place_of_inOrder {reversed : List CodePoint} {code : CodePoint}
    (fits : InOrder (lastClassOf classOf reversed.reverse) (classOf code)) :
    place classOf reversed code = code :: reversed := by
  cases reversed with
  | nil => rfl
  | cons other reversed =>
    -- The code point on top is the last one of the text.
    rw [List.reverse_cons, lastClassOf_append_singleton] at fits
    apply if_neg
    rintro ⟨mark, less⟩
    rcases fits with starter | above
    · exact mark starter
    · exact absurd less (UInt8.not_lt.mpr above)

/-- Putting a code point into a text neither loses nor adds any other. -/
theorem place_perm (reversed : List CodePoint) (code : CodePoint) :
    (place classOf reversed code).Perm (code :: reversed) := by
  -- Going below a code point swaps the two.
  induction reversed with
  | nil => exact .refl _
  | cons other reversed ih =>
    unfold place
    split
    · exact (ih.cons other).trans (.swap code other reversed)
    · exact .refl _

/-- Marks of different classes may be put into a text in either order. -/
theorem place_comm {first second : CodePoint} (firstMark : classOf first ≠ 0)
    (secondMark : classOf second ≠ 0) (differ : classOf first ≠ classOf second)
    (reversed : List CodePoint) :
    place classOf (place classOf reversed first) second
      = place classOf (place classOf reversed second) first := by
  -- One of the two classes is the lower one, and only that one goes below the other mark.
  have apart : classOf first < classOf second ∨ classOf second < classOf first := by
    simp only [UInt8.lt_iff_toNat_lt, ← UInt8.toNat_inj, Ne] at differ ⊢
    omega
  induction reversed with
  | nil =>
    -- The one of the greater class ends up on top.
    rcases apart with less | less
    · simp [place, firstMark, secondMark, less, UInt8.not_lt.mpr (UInt8.le_of_lt less)]
    · simp [place, firstMark, secondMark, less, UInt8.not_lt.mpr (UInt8.le_of_lt less)]
  | cons other reversed ih =>
    by_cases firstBelow : classOf first < classOf other
    -- A mark that stays above is of a greater class than one that goes below.
    · by_cases secondBelow : classOf second < classOf other
      · simp [place, firstMark, secondMark, firstBelow, secondBelow, ih]
      · have above := UInt8.lt_of_lt_of_le firstBelow (UInt8.not_lt.mp secondBelow)
        simp [place, firstMark, secondMark, firstBelow, secondBelow, above]
    · by_cases secondBelow : classOf second < classOf other
      · have above := UInt8.lt_of_lt_of_le secondBelow (UInt8.not_lt.mp firstBelow)
        simp [place, firstMark, secondMark, firstBelow, secondBelow, above]
      · -- Both stay above, and are put in order among themselves.
        rcases apart with less | less
        · simp [place, firstMark, secondMark, firstBelow, secondBelow, less,
            UInt8.not_lt.mpr (UInt8.le_of_lt less)]
        · simp [place, firstMark, secondMark, firstBelow, secondBelow, less,
            UInt8.not_lt.mpr (UInt8.le_of_lt less)]

/-- A mark may be put into a text before or after some marks of other classes. -/
theorem foldl_place_comm {code : CodePoint} (mark : classOf code ≠ 0) {others : List CodePoint}
    (apart : ∀ other ∈ others, classOf other ≠ 0 ∧ classOf other ≠ classOf code)
    (reversed : List CodePoint) :
    others.foldl (place classOf) (place classOf reversed code)
      = place classOf (others.foldl (place classOf) reversed) code := by
  -- The mark goes past one of the others at a time.
  induction others generalizing reversed with
  | nil => rfl
  | cons other others ih =>
    obtain ⟨otherMark, differ⟩ := apart other (by simp)
    rw [List.foldl_cons, List.foldl_cons, place_comm mark otherMark (Ne.symm differ)]
    apply ih
    intro another member
    exact apart another (by simp [member])

@[simp] theorem arrange_nil : arrange classOf [] = [] := rfl

/-- The code points of a source come one after the other. -/
theorem arrange_append_singleton (source : List CodePoint) (code : CodePoint) :
    arrange classOf (source ++ [code])
      = (place classOf (arrange classOf source).reverse code).reverse := by
  -- The last code point is put in place behind all others.
  simp [arrange]

/-- A code point that may stand behind the others stays at the end. -/
theorem arrange_append_of_inOrder {source : List CodePoint} {code : CodePoint}
    (fits : InOrder (lastClassOf classOf (arrange classOf source)) (classOf code)) :
    arrange classOf (source ++ [code]) = arrange classOf source ++ [code] := by
  -- A code point that is in order on top stays there.
  have onTop : InOrder (lastClassOf classOf (arrange classOf source).reverse.reverse)
      (classOf code) := by
    simpa using fits
  rw [arrange_append_singleton, place_of_inOrder onTop, List.reverse_cons, List.reverse_reverse]

/-- Arranging neither loses nor adds a code point. -/
theorem arrange_perm (source : List CodePoint) : (arrange classOf source).Perm source := by
  induction source using List.reverseRecOn with
  | nil => exact .refl _
  | append_singleton source code ih =>
    rw [arrange_append_singleton]
    -- The code points before it are the same by induction, in reverse and with it in front.
    have before := ((List.reverse_perm _).trans ih).cons code
    have atEnd : (code :: source).Perm (source ++ [code]) :=
      (List.perm_append_singleton _ _).symm
    exact (List.reverse_perm _).trans ((place_perm _ _).trans (before.trans atEnd))

@[simp] theorem mem_arrange {source : List CodePoint} {code : CodePoint} :
    code ∈ arrange classOf source ↔ code ∈ source := (arrange_perm source).mem_iff

/-- An ordered text is left as it is. -/
theorem arrange_of_ordered {text : List CodePoint} (ordered : Ordered classOf text) :
    arrange classOf text = text := by
  induction text using List.reverseRecOn with
  | nil => rfl
  | append_singleton text code ih =>
    obtain ⟨before, fits⟩ := ordered_append_singleton.mp ordered
    -- The text before the last code point is left as it is, so that this one stays behind it.
    have same := ih before
    rw [← same] at fits
    rw [arrange_append_of_inOrder fits, same]

/-- On top of a text there is the code point that was put into it, or the one that was there. -/
theorem lastClassOf_place (reversed : List CodePoint) (code : CodePoint) :
    lastClassOf classOf (place classOf reversed code).reverse = classOf code ∨
      lastClassOf classOf (place classOf reversed code).reverse
        = lastClassOf classOf reversed.reverse := by
  -- Only the first comparison decides what is on top.
  cases reversed with
  | nil => exact .inl rfl
  | cons other reversed =>
    unfold place
    split
    · -- The code point went below the one on top.
      right
      simp
    · left
      rw [List.reverse_cons, lastClassOf_append_singleton]

/-- A code point that is put into an ordered text leaves it ordered. -/
theorem ordered_place {reversed : List CodePoint} (ordered : Ordered classOf reversed.reverse)
    (code : CodePoint) : Ordered classOf (place classOf reversed code).reverse := by
  induction reversed with
  | nil => simp [place, Ordered]
  | cons other reversed ih =>
    have whole := ordered
    rw [List.reverse_cons, ordered_append_singleton] at ordered
    obtain ⟨before, above⟩ := ordered
    unfold place
    split
    · next below =>
      rw [List.reverse_cons, ordered_append_singleton]
      refine ⟨ih before, ?_⟩
      -- Below the mark on top there is now the lower one, or what was there.
      rcases lastClassOf_place reversed code with new | old
      · rw [new]
        exact .inr (UInt8.le_of_lt below.2)
      · rw [old]
        exact above
    · next stays =>
      rw [List.reverse_cons, ordered_append_singleton]
      refine ⟨whole, ?_⟩
      rw [List.reverse_cons, lastClassOf_append_singleton]
      by_cases starter : classOf code = 0
      · exact .inl starter
      · -- A mark that stays on top is of no lower class than the one below it.
        have notLess : ¬classOf code < classOf other := by
          intro less
          exact stays ⟨starter, less⟩
        exact .inr (UInt8.not_lt.mp notLess)

/-- Whatever is arranged is ordered. -/
theorem ordered_arrange (source : List CodePoint) : Ordered classOf (arrange classOf source) := by
  -- Each code point in turn is put into an ordered text.
  induction source using List.reverseRecOn with
  | nil => exact ordered_nil
  | append_singleton source code ih =>
    rw [arrange_append_singleton]
    exact ordered_place (by simpa using ih) code

/-- A mark may come before or after some marks of other classes. -/
theorem arrange_comm {code : CodePoint} (mark : classOf code ≠ 0) {others : List CodePoint}
    (apart : ∀ other ∈ others, classOf other ≠ 0 ∧ classOf other ≠ classOf code)
    (before rest : List CodePoint) :
    arrange classOf (before ++ code :: others ++ rest)
      = arrange classOf (before ++ others ++ code :: rest) := by
  -- Marks of other classes are passed without a change to either.
  simp only [arrange, List.foldl_append, List.foldl_cons, foldl_place_comm mark apart]

/-- A mark at the end may as well come before marks of lower classes. -/
theorem arrange_past {part : CodePoint} {marks : List CodePoint}
    (between : marks = [] ∨ classOf part ≠ 0 ∧
      ∀ mark ∈ marks, classOf mark ≠ 0 ∧ classOf mark < classOf part)
    (before : List CodePoint) :
    arrange classOf (before ++ part :: marks) = arrange classOf (before ++ marks ++ [part]) := by
  -- Marks of lower classes are marks of other classes.
  rcases between with none | ⟨nonzero, below⟩
  · simp [none]
  · have apart : ∀ mark ∈ marks, classOf mark ≠ 0 ∧ classOf mark ≠ classOf part := by
      intro mark member
      obtain ⟨isMark, less⟩ := below mark member
      exact ⟨isMark, UInt8.ne_of_lt less⟩
    simpa using arrange_comm nonzero apart before []

/-- The class of one code point is not greater than that of another. -/
def notAbove (classOf : CodePoint → UInt8) (one other : CodePoint) : Bool :=
  classOf one ≤ classOf other

/-- Two runs of marks may be merged beforehand, if the first of them is in ascending order. -/
theorem arrange_append_merge {run marks : List CodePoint}
    (ascending : run.Pairwise fun one other => notAbove classOf one other)
    (runMarks : ∀ mark ∈ run, classOf mark ≠ 0) (others : ∀ mark ∈ marks, classOf mark ≠ 0)
    (before : List CodePoint) :
    arrange classOf (before ++ run ++ marks)
      = arrange classOf (before ++ run.merge marks (notAbove classOf)) := by
  -- The induction follows the merge, which takes the front of the one run or of the other.
  induction run generalizing before marks with
  | nil => simp
  | cons one run ihRun =>
    induction marks generalizing before with
    | nil => simp
    | cons other marks ihMarks =>
      obtain ⟨lowest, rest⟩ := List.pairwise_cons.mp ascending
      rw [List.cons_merge_cons]
      split
      · -- The lower mark of the first run already stands in front.
        have moved := ihRun rest (fun mark member => runMarks mark (by simp [member])) others
          (before ++ [one])
        simpa using moved
      · next below =>
        simp only [notAbove, decide_eq_true_eq, UInt8.not_le] at below lowest
        have apart : ∀ mark ∈ one :: run, classOf mark ≠ 0 ∧ classOf mark ≠ classOf other := by
          intro mark member
          refine ⟨runMarks mark member, ?_⟩
          intro same
          rcases List.mem_cons.mp member with rfl | member
          · exact absurd below (same ▸ UInt8.lt_irrefl _)
          · exact absurd (lowest mark member) (same ▸ UInt8.not_le.mpr below)
        -- The mark of the second run goes past the whole first run.
        have past := arrange_comm (others other (by simp)) apart before marks
        have moved := ihMarks (fun mark member => others mark (by simp [member]))
          (before ++ [other])
        simp only [List.append_assoc, List.cons_append, List.nil_append] at past moved ⊢
        rw [← past, moved]

/-- Marks in order behind a class are in ascending order and not below it. -/
theorem OrderedAfter.ascending {before : UInt8} {marks : List CodePoint}
    (ordered : OrderedAfter classOf before marks) (nonzero : ∀ mark ∈ marks, classOf mark ≠ 0) :
    (marks.Pairwise fun one other => notAbove classOf one other) ∧
      ∀ mark ∈ marks, before ≤ classOf mark := by
  induction marks generalizing before with
  | nil => simp
  | cons mark marks ih =>
    rw [orderedAfter_cons] at ordered
    obtain ⟨starter | above, rest⟩ := ordered
    · exact absurd starter (nonzero mark (by simp))
    · have laterNonzero : ∀ other ∈ marks, classOf other ≠ 0 := by
        intro other member
        exact nonzero other (by simp [member])
      -- The marks behind the first one are in order behind its class.
      obtain ⟨others, below⟩ := ih rest laterNonzero
      refine ⟨List.pairwise_cons.mpr ⟨by simpa [notAbove] using below, others⟩, ?_⟩
      intro other member
      rcases List.mem_cons.mp member with rfl | member
      · exact above
      · exact UInt8.le_trans above (below other member)

/-- Code points in ascending order, none below a class, may stand behind it. -/
theorem orderedAfter_of_ascending {before : UInt8} {marks : List CodePoint}
    (ascending : marks.Pairwise fun one other => notAbove classOf one other)
    (above : ∀ mark ∈ marks, before ≤ classOf mark) : OrderedAfter classOf before marks := by
  -- The class of each code point is a lower bound for those behind it.
  induction marks generalizing before with
  | nil => exact orderedAfter_nil before
  | cons mark marks ih =>
    obtain ⟨lowest, rest⟩ := List.pairwise_cons.mp ascending
    rw [orderedAfter_cons]
    exact ⟨.inr (above mark (by simp)), ih rest (by simpa [notAbove] using lowest)⟩

/-- A text ends with a run of marks, and before it there is a starter or nothing. -/
theorem exists_run (text : List CodePoint) : ∃ front run, text = front ++ run ∧
    lastClassOf classOf front = 0 ∧ ∀ mark ∈ run, classOf mark ≠ 0 := by
  induction text using List.reverseRecOn with
  | nil => exact ⟨[], [], rfl, rfl, by simp⟩
  | append_singleton text code ih =>
    by_cases starter : classOf code = 0
    · exact ⟨text ++ [code], [], by simp, by simpa using starter, by simp⟩
    · -- A mark at the end makes the run longer by one.
      obtain ⟨front, run, rfl, closed, marks⟩ := ih
      refine ⟨front, run ++ [code], by simp, closed, ?_⟩
      intro mark member
      rcases List.mem_append.mp member with member | member
      · exact marks mark member
      · rw [List.mem_singleton.mp member]
        exact starter

/-- Two runs in ascending order are merged into one. -/
theorem ascending_merge {run marks : List CodePoint}
    (ascending : run.Pairwise fun one other => notAbove classOf one other)
    (others : marks.Pairwise fun one other => notAbove classOf one other) :
    (run.merge marks (notAbove classOf)).Pairwise fun one other => notAbove classOf one other := by
  -- Classes are compared in a total order.
  apply List.pairwise_merge _ _ _ _ ascending others
  · intro one other last below above
    simp only [notAbove, decide_eq_true_eq] at below above ⊢
    exact UInt8.le_trans below above
  · intro one other
    simpa [notAbove] using UInt8.le_total _ _

end Arrange

namespace OrderingBuffer

/-- A buffer knows the class of its last code point, and its run goes back to a starter. -/
structure Tracks (classOf : CodePoint → UInt8) (buffer : OrderingBuffer) : Prop where
  last : buffer.lastClass = lastClassOf classOf buffer.text
  closed : ∀ code ∈ (buffer.reversed.drop buffer.runLength).head?, classOf code = 0

/-- Nothing is known of an empty buffer but that it is empty. -/
theorem tracks_onto (classOf : CodePoint → UInt8) : (onto []).Tracks classOf :=
  ⟨rfl, by simp [onto]⟩

/-- A mark need not look beyond a starter, and what is beyond stays where it was. -/
theorem insertMark_eq_place {classOf : CodePoint → UInt8} {mark : CodePoint}
    (nonzero : classOf mark ≠ 0) {limit : Nat} {reversed : List CodePoint}
    (closed : ∀ code ∈ (reversed.drop limit).head?, classOf code = 0) :
    insertMark classOf mark (classOf mark) limit reversed = place classOf reversed mark ∧
      (place classOf reversed mark).drop (limit + 1) = reversed.drop limit := by
  -- The mark goes down the run, and the limit with it.
  induction reversed generalizing limit with
  | nil => cases limit <;> simp [insertMark, place]
  | cons code reversed ih =>
    cases limit with
    | zero =>
      -- The run is over, and no mark goes below a starter.
      have starter : classOf code = 0 := by simpa using closed
      simp [insertMark, place, starter]
    | succ limit =>
      have beyond : ∀ code ∈ (reversed.drop limit).head?, classOf code = 0 := by
        simpa using closed
      obtain ⟨same, kept⟩ := ih beyond
      by_cases below : classOf mark < classOf code
      · simp [insertMark, place, nonzero, below, same, kept]
      · simp [insertMark, place, below]

/-- A buffer puts each code point where canonical order has it. -/
theorem append_eq_place {table : PropertyTable} {buffer : OrderingBuffer}
    (tracks : buffer.Tracks table.combiningClass) (code : CodePoint) :
    (buffer.append table code).reversed = place table.combiningClass buffer.reversed code ∧
      (buffer.append table code).Tracks table.combiningClass := by
  obtain ⟨last, closed⟩ := tracks
  rw [OrderingBuffer.text] at last
  -- A starter ends the run, a mark of no lower class goes on top, any other is inserted.
  simp only [append]
  split
  · next starter =>
    rw [place_of_inOrder (.inl starter)]
    exact ⟨rfl, by simp [OrderingBuffer.text, appendStarter, starter],
      by simp [appendStarter, starter]⟩
  · next nonzero =>
    split
    · next above =>
      rw [place_of_inOrder (.inr (last ▸ above))]
      exact ⟨rfl, by simp [OrderingBuffer.text], by simpa using closed⟩
    · next below =>
      obtain ⟨same, kept⟩ := insertMark_eq_place nonzero closed
      refine ⟨same, ?_, by simpa [same, kept] using closed⟩
      -- The mark did not come to stand on top.
      simp only [OrderingBuffer.text, same]
      cases reversed : buffer.reversed with
      | nil => simp [reversed, last] at below
      | cons top rest =>
        rw [reversed, List.reverse_cons, lastClassOf_append_singleton] at last
        rw [place, if_pos ⟨nonzero, last ▸ UInt8.not_le.mp below⟩, last]
        simp

/-- A buffer puts all code points where canonical order has them. -/
theorem foldl_append_eq_place {table : PropertyTable} (codes : List CodePoint)
    {buffer : OrderingBuffer} (tracks : buffer.Tracks table.combiningClass) :
    (codes.foldl (append table) buffer).reversed
      = codes.foldl (place table.combiningClass) buffer.reversed := by
  -- What one step needs to know of the buffer, it leaves true for the next one.
  induction codes generalizing buffer with
  | nil => rfl
  | cons code codes ih =>
    obtain ⟨same, kept⟩ := append_eq_place tracks code
    rw [List.foldl_cons, List.foldl_cons, ih kept, same]

end OrderingBuffer

namespace PropertyTable

/-- Reordering a source brings it in canonical order. -/
theorem reorderOnto_nil (table : PropertyTable) (source : List CodePoint) :
    table.reorderOnto [] source = arrange table.combiningClass source := by
  -- The buffer puts each mark into the place where the arrangement puts it.
  rw [reorderOnto, OrderingBuffer.text,
    OrderingBuffer.foldl_append_eq_place source (OrderingBuffer.tracks_onto _)]
  rfl

/-- Decomposing a source puts its full decompositions in canonical order.

What is never looked up has to be a starter that stands for itself. -/
theorem decomposeOnto_nil {table : PropertyTable} {equivalence : Equivalence}
    (plain : ∀ code < firstWithProperties,
      table.combiningClass code = 0 ∧ table.expand equivalence code = [code])
    (source : List CodePoint) : table.decomposeOnto equivalence [] source
      = arrange table.combiningClass (source.flatMap (table.expand equivalence)) := by
  -- Looking up every code point makes no difference, since the plain ones stand for themselves.
  have looked : OrderingBuffer.appendDecomposed table equivalence = fun buffer code =>
      (table.expand equivalence code).foldl (OrderingBuffer.append table) buffer := by
    funext buffer code
    unfold OrderingBuffer.appendDecomposed
    split
    · next small =>
      obtain ⟨starter, alone⟩ := plain code small
      simp [alone, OrderingBuffer.append, starter]
    · rfl
  rw [decomposeOnto, looked, ← List.foldl_flatMap, ← reorderOnto_nil, reorderOnto]

end PropertyTable

end UniText
