import CheckReport.Proofs.Session.Painter
import CheckReport.Proofs.Text.Encodable
import CheckReport.Settings.Valid

/-!
# Values of settings

What is read from a value is what the value stands for (`levelOf_eq_ok`, `timeoutOf_eq_ok`); from a
path, if it does not stop the reading (`existingOf_settles`).
-/

namespace CheckReport

open Json (Value)
open Terminal (ColorMode)

/-- A step stops just where it is said to, and otherwise gives something of which `Gives` holds. -/
inductive Settles {ε α : Type} (Stops : Prop) (Gives : α → Prop) : Except ε α → Prop where
  | stops {e : ε} (stops : Stops) : Settles Stops Gives (.error e)
  | gives {a : α} (goes : ¬ Stops) (gives : Gives a) : Settles Stops Gives (.ok a)

theorem Settles.map {ε α β : Type} {Stops : Prop} {Gives : α → Prop} {Gives' : β → Prop}
    {x : Except ε α} (settles : Settles Stops Gives x) {f : α → β}
    (kept : ∀ a, Gives a → Gives' (f a)) : Settles Stops Gives' (x.map f) := by
  cases settles with
  | stops stops => exact .stops stops
  | gives goes gives => exact .gives goes (kept _ gives)

namespace Settings

variable {site : Site}

/-! ### Single values -/

theorem pairedText_eq_ok {s t : Text} : pairedText s = .ok t ↔ Text.Utf8.Encodable s ∧ t = s := by
  have surrogates : s.any Text.isSurrogate = true ↔ ¬ Text.Utf8.Encodable s := by
    simp [Text.Utf8.Encodable]
  unfold pairedText
  split
  · next found => simp [surrogates.mp found]
  · next none => simp [not_not.mp (mt surrogates.mpr none), eq_comm]

/-- A step that goes on from a text without surrogates that stand alone. -/
theorem pairedText_bind_eq_ok {α : Type} {s : Text} {f : Text → Except Problem α} {a : α} :
    (pairedText s >>= f) = .ok a ↔ Text.Utf8.Encodable s ∧ f s = .ok a := by
  simp only [Validation.bind_eq_ok, pairedText_eq_ok, and_assoc, exists_and_left, exists_eq_left]

theorem choiceOf_eq_ok {α : Type} {word : α → Text} {find? : Text → Option α} {problem : Problem}
    (found : ∀ s a, find? s = some a ↔ s = word a) (encodable : ∀ a, Text.Utf8.Encodable (word a))
    {v : Value} {a : α} : choiceOf problem find? v = .ok a ↔ IsWord word v a := by
  constructor
  · intro read
    cases v with
    | str s =>
      obtain ⟨-, chosen⟩ := pairedText_bind_eq_ok.mp read
      split at chosen
      · next known =>
        cases chosen
        rw [(found s a).mp known]
        exact .word a
      · cases chosen
    | _ => cases read
  · rintro ⟨⟩
    refine pairedText_bind_eq_ok.mpr ⟨encodable a, ?_⟩
    rw [(found _ a).mpr rfl]
    rfl

theorem levelOf_eq_ok {v : Value} {level : Severity} :
    levelOf v = .ok level ↔ IsWord Severity.label v level := by
  refine choiceOf_eq_ok (fun s level => ⟨fun found => ?_, fun same => ?_⟩) fun level => ?_
  · have labelled := List.find?_some found
    exact (of_decide_eq_true labelled).symm
  · subst same
    cases level <;> decide
  · cases level <;> exact Text.Utf8.encodable_text _

theorem colorModeOf_eq_ok {v : Value} {mode : ColorMode} :
    colorModeOf v = .ok mode ↔ IsWord ColorMode.name v mode := by
  refine choiceOf_eq_ok (fun s mode => ⟨fun found => ?_, fun same => ?_⟩) fun mode => ?_
  · exact (Session.ofName?_eq_some found).symm
  · subst same
    exact Session.ofName?_name mode
  · cases mode <;> exact Text.Utf8.encodable_text _

theorem executableOf_eq_ok {v : Value} {executable : Text} :
    executableOf v = .ok executable ↔ IsExecutable v executable := by
  constructor
  · intro read
    cases v with
    | str s =>
      obtain ⟨encodable, read⟩ := pairedText_bind_eq_ok.mp read
      split at read
      · cases read
      · next nonempty =>
        cases read
        exact .text nonempty encodable
    | _ => cases read
  · rintro ⟨nonempty, encodable⟩
    refine pairedText_bind_eq_ok.mpr ⟨encodable, ?_⟩
    rw [if_neg nonempty]
    rfl

theorem numberOf_eq_ok {v : Value} {x : Binary64} : numberOf v = .ok x ↔ IsNumber v x := by
  constructor
  · intro read
    cases v with
    | bool b =>
      cases read
      exact .bool b
    | int n =>
      rw [numberOf] at read
      split at read
      · cases read
      · next bounded =>
        cases read
        exact .int bounded
    | float =>
      cases read
      exact .float x
    | str s =>
      obtain ⟨encodable, read⟩ := pairedText_bind_eq_ok.mp read
      split at read
      · next spelled =>
        cases read
        exact .text encodable spelled
      · cases read
    | _ => cases read
  · intro number
    cases number with
    | bool b => rfl
    | int bounded =>
      rw [numberOf]
      split
      · next infinite => exact absurd infinite (bounded _)
      · rfl
    | float => rfl
    | text encodable spelled =>
      refine pairedText_bind_eq_ok.mpr ⟨encodable, ?_⟩
      rw [spelled]
      rfl

theorem timeoutOf_eq_ok {v : Value} {timeout : Option Binary64} :
    timeoutOf v = .ok timeout ↔ IsTimeout v timeout := by
  have limited {v : Value} : (do
      let x ← numberOf v
      if x.isPositive then return some x else .error .notPositive : Except Problem (Option Binary64))
        = .ok timeout ↔ ∃ x, IsNumber v x ∧ x.isPositive = true ∧ timeout = some x := by
    simp only [Validation.bind_eq_ok, numberOf_eq_ok]
    refine exists_congr fun x => and_congr_right fun _ => ?_
    split
    · next positive => simp [positive, pure, Except.pure, eq_comm]
    · next zero => simp [zero]
  constructor
  · intro read
    cases v with
    | null =>
      cases read
      exact .null
    | _ =>
      obtain ⟨x, number, positive, rfl⟩ := limited.mp read
      exact .number number positive
  · intro timeout
    cases timeout with
    | null => rfl
    | number number positive =>
      have read := limited.mpr ⟨_, number, positive, rfl⟩
      cases number <;> exact read

/-! ### Paths -/

theorem absent_of_encodable {path : Path} (encodable : Text.Utf8.Encodable path.toText) :
    absent path = .ok (.absent path) := by
  have note : Text.Utf8.unencodable? (absenceNote path) = none := by
    rw [Text.Utf8.unencodable?_eq_none_iff]
    simp [absenceNote, encodable]
  simp only [absent, note]

theorem absent_of_not_encodable {path : Path} (unwritable : ¬ Text.Utf8.Encodable path.toText) :
    ∃ cause, absent path = .error cause := by
  cases note : Text.Utf8.unencodable? (absenceNote path) with
  | none =>
    rw [Text.Utf8.unencodable?_eq_none_iff] at note
    exact absurd (by simpa [absenceNote] using note) unwritable
  | some fault => exact ⟨.unwritable fault, by simp only [absent, note]⟩

theorem existingOf_str (site : Site) (s : Text) : existingOf site (.str s) =
    (site.at? (Path.ofText s).toText).mapError .tooLong >>= fun
      | some _ => .ok (.ok (Path.ofText s))
      | none => (absent (Path.ofText s)).map .error := by
  unfold existingOf Site.exists?
  dsimp only
  match site.at? (Path.ofText s).toText with
  | .error _ => rfl
  | .ok (some _) => rfl
  | .ok none => rfl

/-- A value is a path that stops the reading. -/
def StoppedBy (site : Site) (v : Value) : Prop :=
  ∃ s, v = .str s ∧ site.Stops (Path.ofText s)

/-- A value stops the reading, or is read as the path that it is. -/
theorem existingOf_settles (site : Site) (v : Value) :
    Settles (StoppedBy site v) (fun x => ∀ path, x = .ok path ↔ IsPath site v path)
      (existingOf site v) := by
  cases v with
  | str s =>
    have isPath (path : Path) :
        IsPath site (.str s) path ↔ Path.ofText s = path ∧ site.Has (Path.ofText s) :=
      ⟨fun ⟨there⟩ => ⟨rfl, there⟩, fun ⟨same, there⟩ => same ▸ .there there⟩
    have stopped : StoppedBy site (.str s) ↔ site.Stops (Path.ofText s) := by
      simp [StoppedBy]
    simp only [isPath, stopped, existingOf_str]
    generalize Path.ofText s = path
    unfold Site.Stops Site.Has
    cases site.at? path.toText with
    | error fault => exact .stops (.inl ⟨fault, rfl⟩)
    | ok found =>
      cases found with
      | some node => exact .gives (by simp) (by simp)
      | none =>
        show Settles _ _ ((absent path).map _)
        by_cases encodable : Text.Utf8.Encodable path.toText
        · rw [absent_of_encodable encodable]
          exact .gives (by simp [encodable]) (by simp)
        · obtain ⟨cause, unwritable⟩ := absent_of_not_encodable encodable
          rw [unwritable]
          exact .stops (.inr ⟨rfl, encodable⟩)
  | _ => exact .gives nofun fun _ => ⟨nofun, nofun⟩

end Settings

end CheckReport
