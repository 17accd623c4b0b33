import CheckReport.Proofs.Json.Escapes
import CheckReport.Proofs.Json.Number

/-!
# Printed values are read

A value that fits is read back from what it is printed as (`read_print`): its numbers and texts where
an element can end, its items and members as a series.
-/

namespace CheckReport.Json

/-! ### Blanks -/

theorem leaf_blank {c : Nat} (blank : isBlank c = true) (t : Text) :
    leaf (c :: t) = stop .expectedValue (c :: t) := by
  simp only [isBlank, Bool.or_eq_true, beq_iff_eq] at blank
  obtain ((rfl | rfl) | rfl) | rfl := blank
  all_goals rfl

/-- A value starts with no blank. -/
theorem skipBlanks_of_front {levels : Nat} {s rest : Text} {v : Value} (front : Front levels s v rest) :
    skipBlanks s = s := by
  cases s with
  | nil => rfl
  | cons c t =>
    have notBlank : ¬isBlank c = true := by
      intro blank
      have noLeaf : ¬Leaf (c :: t) v rest := by
        rintro ⟨_, read⟩
        rw [leaf_blank blank] at read
        cases read
      cases levels with
      | zero => exact noLeaf front
      | succ levels =>
        rcases front with leaf | nest
        · exact noLeaf leaf
        · cases nest with
          | emptyArray | array | emptyObject | object => cases blank
    exact List.dropWhile_cons_of_neg notBlank

theorem skipBlanks_of_member {item : Text → Value → Text → Prop} {s rest : Text} {m : Text × Value}
    (member : Member item s m rest) : skipBlanks s = s := by
  obtain ⟨_, named, _⟩ := member
  unfold memberName at named
  split at named
  · rfl
  · cases named

/-! ### Series -/

section

variable {α : Type} {R : Text → α → Text → Prop} {close : Nat}

/-- A text from which an element is read, wherever one can end after it. -/
def Spells (R : Text → α → Text → Prop) (s : Text) (a : α) : Prop :=
  ∀ rest, Ends rest → R (s ++ rest) a rest

theorem series_join (mark : close = 0x5D ∨ close = 0x7D)
    (clean : ∀ s a rest, R s a rest → skipBlanks s = s) {parts : List Text} {as : List α}
    (spells : List.Forall₂ (Spells R) parts as) (filled : parts ≠ []) (rest : Text) :
    Series R close (Text.join (text ", ") parts ++ close :: rest) as rest := by
  induction spells with
  | nil => exact absurd rfl filled
  | @cons part a parts as first later ih =>
    cases later with
    | nil =>
      have closed : skipBlanks (close :: rest) = close :: rest := by
        rcases mark with rfl | rfl
        · rfl
        · rfl
      exact .last (first _ (ends_cons (.inr mark) rest)) closed
    | @cons next b parts as second later =>
      have series := ih (List.cons_ne_nil _ _)
      have front : skipBlanks (Text.join (text ", ") (next :: parts) ++ close :: rest) =
          Text.join (text ", ") (next :: parts) ++ close :: rest := by
        obtain ⟨_, _, read⟩ := series_front series
        exact clean _ _ _ read
      have comma := ends_cons (.inl rfl)
        (0x20 :: (Text.join (text ", ") (next :: parts) ++ close :: rest))
      have whole : Text.join (text ", ") (part :: next :: parts) ++ close :: rest = part ++
          0x2C :: 0x20 :: (Text.join (text ", ") (next :: parts) ++ close :: rest) := by
        simp [Text.join, text]
      rw [whole]
      refine .more (first _ comma) rfl ?_
      change Series R close (skipBlanks (Text.join (text ", ") (next :: parts) ++ close :: rest)) _ rest
      rwa [front]

end

section

variable {levels : Nat}

theorem spells_array {parts : List Text} {ws : List Value}
    (spells : List.Forall₂ (Spells (Front levels)) parts ws) :
    Spells (Front (levels + 1)) (text "[" ++ Text.join (text ", ") parts ++ text "]") (.arr ws) := by
  intro rest ends
  have shape : text "[" ++ Text.join (text ", ") parts ++ text "]" ++ rest =
      0x5B :: (Text.join (text ", ") parts ++ 0x5D :: rest) := by
    simp [text]
  rw [shape]
  refine .inr ?_
  cases spells with
  | nil => exact .emptyArray rfl
  | cons first later =>
    have series := series_join (.inl rfl) (fun _ _ _ => skipBlanks_of_front) (.cons first later)
      (List.cons_ne_nil _ _) rest
    obtain ⟨_, _, read⟩ := series_front series
    refine .array ?_
    rwa [skipBlanks_of_front read]

theorem spells_object {parts : List Text} {listed : List (Text × Value)}
    (spells : List.Forall₂ (Spells (Member (Front levels))) parts listed) :
    Spells (Front (levels + 1)) (text "\x7b" ++ Text.join (text ", ") parts ++ text "\x7d")
      (.obj (members listed)) := by
  intro rest ends
  have shape : text "\x7b" ++ Text.join (text ", ") parts ++ text "\x7d" ++ rest =
      0x7B :: (Text.join (text ", ") parts ++ 0x7D :: rest) := by
    simp [text]
  rw [shape]
  refine .inr ?_
  cases spells with
  | nil => exact .emptyObject rfl
  | cons first later =>
    have series := series_join (.inr rfl) (fun _ _ _ => skipBlanks_of_member) (.cons first later)
      (List.cons_ne_nil _ _) rest
    obtain ⟨_, _, read⟩ := series_front series
    refine .object ?_
    rwa [skipBlanks_of_member read]

theorem spells_member {name s : Text} {w : Value} (points : ∀ c ∈ name, c < 0x110000)
    (spells : Spells (Front levels) s w) :
    Spells (Member (Front levels)) (printText name ++ text ": " ++ s) (paired name, w) := by
  intro rest ends
  have item := spells rest ends
  obtain ⟨t, shape, read⟩ := string_printText points (text ": " ++ (s ++ rest))
  refine ⟨s ++ rest, ?_, item⟩
  rw [List.append_assoc, List.append_assoc, shape, memberName, read]
  have colon : skipBlanks (text ": " ++ (s ++ rest)) = 0x3A :: 0x20 :: (s ++ rest) := rfl
  dsimp only
  rw [colon]
  change Except.ok (paired name, skipBlanks (s ++ rest)) = _
  rw [skipBlanks_of_front item]

theorem spells_leaf {s : Text} {w : Value} (leaf : ∀ rest, Ends rest → Leaf (s ++ rest) w rest) :
    Spells (Front levels) s w := by
  intro rest ends
  cases levels with
  | zero => exact leaf rest ends
  | succ levels => exact .inl (leaf rest ends)

end

/-! ### Values -/

theorem printItems_eq (vs : List Value) : Value.printItems vs = vs.map Value.print := by
  induction vs with
  | nil => rfl
  | cons v vs ih => rw [Value.printItems, ih, List.map_cons]

theorem printMembers_eq (ms : List (Text × Value)) :
    Value.printMembers ms = ms.map fun m => printText m.1 ++ text ": " ++ m.2.print := by
  induction ms with
  | nil => rfl
  | cons m ms ih => rw [Value.printMembers, ih, List.map_cons]

theorem exists_forall₂ {α β : Type} {R : α → β → Prop} {as : List α} (some : ∀ a ∈ as, ∃ b, R a b) :
    ∃ bs, List.Forall₂ R as bs := by
  induction as with
  | nil => exact ⟨[], .nil⟩
  | cons a as ih =>
    obtain ⟨b, first⟩ := some a List.mem_cons_self
    obtain ⟨bs, later⟩ := ih fun a mem => some a (List.mem_cons_of_mem _ mem)
    exact ⟨b :: bs, .cons first later⟩

theorem leaf_printText {s : Text} (points : ∀ c ∈ s, c < 0x110000) (rest : Text) :
    Leaf (printText s ++ rest) (.str (paired s)) rest := by
  obtain ⟨t, shape, read⟩ := string_printText points rest
  rw [shape]
  refine ⟨rfl, ?_⟩
  rw [leaf, read]

/-- A value that fits is read back at the front of whatever an element can end in front of. -/
theorem exists_echo {levels : Nat} {v : Value} (fits : v.Fits levels) :
    ∃ w, Echo v w ∧ Spells (Front levels) v.print w := by
  induction fits with
  | null => exact ⟨.null, .null, spells_leaf fun rest _ => ⟨rfl, rfl⟩⟩
  | bool b =>
    cases b with
    | true => exact ⟨.bool true, .bool true, spells_leaf fun rest _ => ⟨rfl, rfl⟩⟩
    | false => exact ⟨.bool false, .bool false, spells_leaf fun rest _ => ⟨rfl, rfl⟩⟩
  | int small => exact ⟨.int _, .int _, spells_leaf fun rest => leaf_ofInt small⟩
  | float x =>
    obtain ⟨y, leaf⟩ := leaf_printNumber x
    exact ⟨.float y, .float x y, spells_leaf leaf⟩
  | str points => exact ⟨.str _, .str _, spells_leaf fun rest _ => leaf_printText points rest⟩
  | @arr levels vs items ih =>
    obtain ⟨ws, both⟩ := exists_forall₂ ih
    refine ⟨.arr ws, .arr (both.imp fun _ _ => And.left), ?_⟩
    rw [Value.print, printItems_eq]
    exact spells_array (List.forall₂_map_left_iff.mpr (both.imp fun _ _ => And.right))
  | @obj levels ms points items ih =>
    have some (m : Text × Value) (mem : m ∈ ms) : ∃ l : Text × Value, EchoMember Echo m l ∧
        Spells (Member (Front levels)) (printText m.1 ++ text ": " ++ m.2.print) l := by
      obtain ⟨w, echo, spells⟩ := ih m mem
      exact ⟨(paired m.1, w), .mk echo, spells_member (points m mem) spells⟩
    obtain ⟨listed, both⟩ := exists_forall₂ some
    refine ⟨.obj (members listed), .obj (both.imp fun _ _ => And.left), ?_⟩
    rw [Value.print, printMembers_eq]
    exact spells_object (List.forall₂_map_left_iff.mpr (both.imp fun _ _ => And.right))

/-- A printed document is read as the value that the printed one comes back as. -/
theorem read_print [Platform] {v : Value} (fits : v.Fits Platform.levels) :
    ∃ w, Echo v w ∧ read v.print = .ok w := by
  obtain ⟨w, echo, spells⟩ := exists_echo fits
  have front := spells [] ends_nil
  rw [List.append_nil] at front
  refine ⟨w, echo, read_eq_ok_iff.mpr ⟨fun mark => ?_, [], ?_, rfl⟩⟩
  · have ascii := Value.ascii_print v 0xFEFF (List.mem_of_head? mark)
    omega
  · rwa [skipBlanks_of_front front]

end CheckReport.Json
