import Mathlib.Data.List.Nodup
import Mathlib.Data.List.Perm.Subperm
import CheckReport.Proofs.Server.Output

/-!
# Fresh output directories

Where the next output goes there is nothing yet (`at?_nextOutput`), so that it is made as it is promised
(`made_nextOutput`).
-/

namespace CheckReport

/-! ### Numbers of output directories -/

theorem Layout.digitsValue_padded (width : Nat) (digits : Text) :
    Text.digitsValue (Layout.padded width digits) = Text.digitsValue digits := by
  unfold Layout.padded Text.digitsValue
  rw [List.foldl_append]
  congr 1
  induction width - digits.length with
  | zero => rfl
  | succ n ih => rw [List.replicate_succ, List.foldl_cons, ih]

namespace Server

theorem outputPlace_inj {m n : Nat} : outputPlace m = outputPlace n ↔ m = n := by
  constructor
  · intro same
    simp only [outputPlace, List.cons.injEq, and_true, true_and, List.append_cancel_left_eq] at same
    have value := congrArg Text.digitsValue same
    rwa [Layout.digitsValue_padded, Layout.digitsValue_padded, Text.digitsValue_ofNat,
      Text.digitsValue_ofNat] at value
  · exact congrArg outputPlace

theorem outputPlace_ne_nil (n : Nat) : outputPlace n ≠ [] :=
  List.cons_ne_nil _ _

theorem at?_freshNumber (tree : FileTree) : tree.at? (outputPlace (freshNumber tree)) = none := by
  unfold freshNumber
  cases found : (List.range (tree.nodes.length + 1)).find? fun n =>
      (tree.at? (outputPlace n)).isNone with
  | some n => simpa using List.find?_some found
  | none =>
    -- More numbers are tried than there are nodes.
    have taken : (List.range (tree.nodes.length + 1)).map outputPlace ⊆ tree.nodes.map (·.1) := by
      intro place mem
      obtain ⟨n, tried, rfl⟩ := List.mem_map.mp mem
      have there : (tree.at? (outputPlace n)).isSome := by
        simpa [Option.isSome_iff_ne_none] using List.find?_eq_none.mp found n tried
      rw [FileTree.at?, if_neg (outputPlace_ne_nil n), Option.isSome_map,
        List.find?_isSome] at there
      obtain ⟨node, held, same⟩ := there
      exact List.mem_map.mpr ⟨node, held, of_decide_eq_true same⟩
    have distinct : ((List.range (tree.nodes.length + 1)).map outputPlace).Nodup :=
      List.nodup_range.map fun m n => outputPlace_inj.mp
    have many := (distinct.subperm taken).length_le
    simp only [List.length_map, List.length_range] at many
    omega

variable {site : Site} {round : Round}

/-- Where everything stands in directories, nothing is below the place of the next output either. -/
theorem at?_nextOutput (connected : site.tree.Connected) {below : List Text}
    (within : (round.host site).nextOutput <+: below) : site.tree.at? below = none := by
  have vacant : site.tree.at? (round.host site).nextOutput = none := at?_freshNumber site.tree
  by_contra there
  by_cases same : (round.host site).nextOutput = below
  · exact there (same ▸ vacant)
  · rw [connected below _ (Option.isSome_iff_ne_none.mpr there) within same] at vacant
    cases vacant

/-! ### Their names -/

theorem size_le (s : Text) : Site.size s ≤ 4 * s.length := by
  unfold Site.size Text.Utf8.encodeEscaping
  induction s with
  | nil => exact Nat.le_refl _
  | cons c s ih =>
    have char : (Text.Utf8.encodeChar c).length ≤ 4 := by
      unfold Text.Utf8.encodeChar
      split
      · simp
      · split
        · simp
        · split <;> simp
    rw [List.flatMap_cons, List.length_append, List.length_cons]
    split
    · rw [List.length_singleton]
      omega
    · omega

/-- The name of an output directory. -/
def outputName (n : Nat) : Text :=
  text "llscheck-" ++ Layout.padded 8 (Text.ofNat n)

theorem length_outputName {n : Nat} (few : n < Nat.pow 10 8) : (outputName n).length = 17 := by
  have short : (Text.ofNat n).length ≤ 8 := (Text.length_ofNat_le_iff_pow (by decide)).mpr few
  have start : (text "llscheck-").length = 9 := rfl
  rw [outputName, Layout.padded, List.length_append, List.length_append, List.length_replicate]
  omega

theorem plain_outputName (n : Nat) :
    ∀ c ∈ outputName n, c ≠ Text.slash ∧ c ≠ 0 ∧ Text.isSurrogate c = false := by
  have digit {c : Nat} (digit : Text.isDigit c = true) :
      c ≠ Text.slash ∧ c ≠ 0 ∧ Text.isSurrogate c = false := by
    obtain ⟨low, high⟩ := Text.isDigit_iff.mp digit
    refine ⟨?_, ?_, ?_⟩
    · unfold Text.slash
      omega
    · omega
    · exact Text.isSurrogate_of_lt (by omega)
  rw [outputName, Layout.padded, List.forall_mem_append, List.forall_mem_append]
  refine ⟨by decide, fun c mem => ?_, fun c mem => digit (Text.isDigit_of_mem_ofNat mem)⟩
  rw [List.eq_of_mem_replicate mem]
  exact digit rfl

theorem isName_outputName {n : Nat} (few : n < Nat.pow 10 8) : Site.IsName (outputName n) := by
  have plain := plain_outputName n
  have first : (outputName n).head? = some 0x6C := rfl
  refine ⟨⟨?_, ?_, ?_⟩, ?_, ?_, ?_⟩
  · intro same
    rw [same] at first
    cases first
  · intro same
    rw [same] at first
    revert first
    decide
  · intro same
    rw [same] at first
    revert first
    decide
  · exact fun mem => (plain _ mem).1 rfl
  · refine List.all_eq_true.mpr fun c mem => ?_
    simp [(plain c mem).2.1, Text.Utf8.isGivable, (plain c mem).2.2]
  · have small := size_le (outputName n)
    rw [length_outputName few] at small
    exact Nat.le_trans small (by decide)

/-- The model of the call that makes a directory keeps what is promised of it. -/
theorem made_nextOutput (connected : site.tree.Connected)
    (temporary : site.tree.at? [text "tmp"] = some .directory)
    (few : freshNumber site.tree < Nat.pow 10 8) :
    (round.elsewhere (round.host site).nextOutput).Made site := by
  have place : (round.host site).nextOutput = [text "tmp", outputName (freshNumber site.tree)] := rfl
  refine ⟨fun below within => at?_nextOutput connected within, ?_, ?_, ?_⟩
  · intro parent above different
    obtain rfl | ⟨rest, rfl, inside⟩ := List.prefix_cons_iff.mp above
    · exact FileTree.at?_nil site.tree
    · obtain rfl | ⟨last, rfl, none⟩ := List.prefix_cons_iff.mp inside
      · exact temporary
      · obtain rfl := List.prefix_nil.mp none
        exact absurd rfl different
  · intro name mem
    obtain rfl | mem := List.mem_cons.mp mem
    · decide +kernel
    · rw [List.mem_singleton.mp mem]
      exact isName_outputName few
  · have path : (round.elsewhere (round.host site).nextOutput).invocation.artifactPath =
        Path.toText ⟨.single, [text "tmp", outputName (freshNumber site.tree), artifactName]⟩ :=
      artifactPath_eq round.request _
    have length : (Path.toText ⟨.single, [text "tmp", outputName (freshNumber site.tree),
        artifactName]⟩).length = 33 := by
      simp [Site.toText_single, Text.join, length_outputName few, artifactName, text]
    have small := size_le (Path.toText ⟨.single, [text "tmp", outputName (freshNumber site.tree),
      artifactName]⟩)
    rw [path]
    rw [length] at small
    exact Nat.lt_of_le_of_lt small (by decide)

end Server

end CheckReport
