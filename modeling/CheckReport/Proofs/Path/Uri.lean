import CheckReport.Path.Basic
import CheckReport.Path.Uri
import CheckReport.Proofs.Text.Spelling

/-!
# Paths back from URIs

`decode` takes a written path back to the path, whatever of it is escaped. So does `ofUri` behind a
scheme, unless the front of what is written looks like a drive (`ofUri_scheme_append_escaped`). Without
a scheme a URI is unescaped once and nothing else, and no byte that it spells is lost
(`ofUri_of_spells`).
-/

namespace CheckReport.Path

open Text (IsScalar slash)
open Text.Percent (Spells isAscii percent bytes decode)
open Text.Utf8 (Bytes StandsFor encode encodeChar encodeEscaping)

/-! ### Unescaping -/

theorem isAscii_of_mem_escapes {s : Bytes} {w : Text} (h : Escapes s w) {c : Nat} (hc : c ∈ w) :
    isAscii c = true := by
  induction h with
  | nil => cases hc
  | cons high low _ ih =>
    simp only [List.mem_cons] at hc
    rcases hc with rfl | rfl | rfl | hc
    · rfl
    · exact Text.Percent.isAscii_of_hexValue? high
    · exact Text.Percent.isAscii_of_hexValue? low
    · exact ih hc

theorem bytes_escapes_append {s : Bytes} {w : Text} (h : Escapes s w) (e : Text) :
    bytes (w ++ e) = s ++ bytes e := by
  induction h with
  | nil => rfl
  | cons high low _ ih =>
    simp only [List.cons_append]
    rw [Text.Percent.bytes_escape high low, ih]

/-- The ASCII in front of a written path spells the UTF-8 of the front of the path. -/
theorem Escaped.run {p e : Text} (h : Escaped p e) :
    ∃ front rest, p = front ++ rest ∧ (∀ c ∈ front, Text.IsScalar c) ∧
      bytes (e.takeWhile isAscii) = encode front ∧ Escaped rest (e.dropWhile isAscii) := by
  induction h with
  | nil => exact ⟨[], [], rfl, by simp, by rw [List.takeWhile_nil, bytes]; rfl, .nil⟩
  | @bare c p e other tail ih =>
    by_cases hc : isAscii c = true
    · obtain ⟨front, rest, rfl, scalar, spelled, h⟩ := ih
      have small : c < 0x80 := of_decide_eq_true hc
      refine ⟨c :: front, rest, rfl, ?_, ?_, ?_⟩
      · exact List.forall_mem_cons.mpr ⟨Text.Utf8.isScalar_iff.mpr (by omega), scalar⟩
      · rw [List.takeWhile_cons_of_pos hc, Text.Percent.bytes_cons_of_ne other, spelled,
          Text.Utf8.encode_cons, encodeChar, if_pos small]
        rfl
      · rwa [List.dropWhile_cons_of_pos hc]
    · refine ⟨[], c :: p, rfl, by simp, ?_, ?_⟩
      · rw [List.takeWhile_cons_of_neg hc, bytes]
        rfl
      · rw [List.dropWhile_cons_of_neg hc]
        exact .bare other tail
  | @escape c w p e scalar _ written _ ih =>
    obtain ⟨front, rest, rfl, scalars, spelled, h⟩ := ih
    have ascii : ∀ c ∈ w, isAscii c = true := fun _ => isAscii_of_mem_escapes written
    refine ⟨c :: front, rest, rfl, List.forall_mem_cons.mpr ⟨scalar, scalars⟩, ?_, ?_⟩
    · rw [List.takeWhile_append_of_pos ascii, bytes_escapes_append written, spelled,
        Text.Utf8.encode_cons]
    · rwa [List.dropWhile_append_of_pos ascii]

theorem Escapes.head? {s : Bytes} {w : Text} (h : Escapes s w) (filled : s ≠ []) :
    w.head? = some percent := by
  cases h with
  | nil => contradiction
  | cons => rfl

theorem Escaped.eq_nil {p : Text} (h : Escaped p []) : p = [] := by
  generalize written : [] = e at h
  cases h with
  | nil => rfl
  | bare => cases written
  | escape _ _ escapes _ =>
    have start := escapes.head? (Text.Utf8.encodeChar_ne_nil _)
    obtain ⟨rfl, _⟩ := List.append_eq_nil_iff.mp written.symm
    cases start

/-- What is written starts with the character itself unless it starts with an escape. -/
theorem Escaped.eq_cons {p e : Text} {c : Nat} (h : Escaped p (c :: e)) (other : c ≠ percent) :
    ∃ q, p = c :: q ∧ Escaped q e := by
  generalize written : c :: e = w at h
  cases h with
  | nil => cases written
  | bare _ rest =>
    obtain ⟨rfl, rfl⟩ := List.cons.inj written
    exact ⟨_, rfl, rest⟩
  | @escape d w _ _ _ _ escapes _ =>
    have start := escapes.head? (Text.Utf8.encodeChar_ne_nil d)
    cases w with
    | nil => cases start
    | cons a w =>
      obtain ⟨rfl, _⟩ := List.cons.inj written
      exact absurd (Option.some.inj start) other

theorem escaped_self {p : Text} (h : percent ∉ p) : Escaped p p := by
  induction p with
  | nil => exact .nil
  | cons c p ih =>
    obtain ⟨hc, hp⟩ := List.ne_and_not_mem_of_not_mem_cons h
    exact .bare (Ne.symm hc) (ih hp)

theorem decode_escaped {p e : Text} (h : Escaped p e) : decode e = p := by
  fun_induction decode e generalizing p with
  | case1 => exact h.eq_nil.symm
  | case2 c e ascii ih =>
    obtain ⟨front, rest, rfl, scalar, spelled, tail⟩ := h.run
    rw [List.takeWhile_cons_of_pos ascii] at spelled
    rw [List.dropWhile_cons_of_pos ascii] at tail
    rw [spelled, Text.Utf8.decodeEscaping_encode scalar, ih tail]
  | case3 c e large ih =>
    -- The percent sign is ASCII, so a character outside it stands for itself.
    have other : c ≠ percent := by
      rintro rfl
      exact large rfl
    obtain ⟨q, rfl, tail⟩ := h.eq_cons other
    rw [ih tail]

/-! ### Drives -/

theorem startsAtRoot_iff {e : Text} (h : e.head? ≠ some slash) :
    startsAtRoot e = true ↔ StartsWithDrive (slash :: e) ∨ StartsWithMark (slash :: e) := by
  constructor
  · intro start
    cases e with
    | nil => cases start
    | cons c e =>
      by_cases letter : isLetter c = true
      · simp only [startsAtRoot, if_pos letter, decide_eq_true_eq] at start
        split at start
        · next rest =>
          obtain ⟨rest, rfl⟩ := List.head?_eq_some_iff.mp start
          exact .inl ⟨c, rest, letter, rfl⟩
        · obtain ⟨rest, rfl⟩ := List.head?_eq_some_iff.mp start
          exact .inr ⟨c, rest, .inl letter, rfl⟩
      · simp only [startsAtRoot, if_neg letter, decide_eq_true_eq] at start
        split at start
        · next rest colon =>
          obtain ⟨rfl, rfl⟩ := List.cons.inj colon
          obtain ⟨rest, rfl⟩ := List.head?_eq_some_iff.mp start
          exact .inr ⟨0x3A, rest, .inr rfl, rfl⟩
        · exact absurd start h
  · intro given
    rcases given with ⟨c, rest, letter, same⟩ | ⟨c, rest, letter | rfl, same⟩
    · obtain ⟨_, rfl⟩ := List.cons.inj same
      simp [startsAtRoot, letter]
    · obtain ⟨_, rfl⟩ := List.cons.inj same
      simp [startsAtRoot, letter, slash]
    · obtain ⟨_, rfl⟩ := List.cons.inj same
      rfl

theorem after?_append (start s : Text) : Text.after? start (start ++ s) = some s := by
  rw [Text.after?, if_pos (List.isPrefixOf_iff_prefix.mpr (List.prefix_append start s)),
    List.drop_left]

theorem after?_eq_none {start s : Text} (other : ¬start <+: s) : Text.after? start s = none := by
  rw [Text.after?, if_neg (mt List.isPrefixOf_iff_prefix.mp other)]

theorem ofUri_scheme_slash (e : Text) :
    ofUri (scheme ++ slash :: e) = decode (if startsAtRoot e then e else slash :: e) := by
  rw [ofUri, withoutScheme, after?_append]
  rfl

theorem Escaped.eq_slash_cons {q e : Text} (h : Escaped (slash :: q) e) :
    ∃ e', e = slash :: e' ∧ Escaped q e' := by
  cases h with
  | bare _ rest => exact ⟨_, rfl, rest⟩
  | escape _ other _ _ => exact absurd rfl other

theorem Escaped.head?_ne_slash {q e : Text} (h : Escaped q e) (single : q.head? ≠ some slash) :
    e.head? ≠ some slash := by
  cases e with
  | nil => simp
  | cons c e =>
    intro start
    obtain rfl : c = slash := Option.some.inj start
    obtain ⟨_, rfl, _⟩ := h.eq_cons (by decide)
    exact single rfl

theorem ofUri_of_no_drive {p e : Text} (rooted : IsRooted p) (escaped : Escaped p e)
    (noDrive : ¬StartsWithDrive e) (noMark : ¬StartsWithMark e) : ofUri (scheme ++ e) = p := by
  obtain ⟨q, rfl, single⟩ := rooted
  obtain ⟨e, rfl, rest⟩ := escaped.eq_slash_cons
  have plain : ¬startsAtRoot e = true := by
    rw [startsAtRoot_iff (rest.head?_ne_slash single)]
    exact not_or.mpr ⟨noDrive, noMark⟩
  rw [ofUri_scheme_slash, if_neg plain, decode_escaped escaped]

theorem ofUri_of_drive {p e : Text} (rooted : IsRooted p) (escaped : Escaped p e)
    (drive : StartsWithDrive e) : ofUri (scheme ++ e) = p.drop 1 := by
  obtain ⟨q, rfl, single⟩ := rooted
  obtain ⟨e, rfl, rest⟩ := escaped.eq_slash_cons
  have starts : startsAtRoot e = true :=
    (startsAtRoot_iff (rest.head?_ne_slash single)).mpr (.inl drive)
  rw [ofUri_scheme_slash, if_pos starts, decode_escaped rest, List.drop_one, List.tail_cons]

/-- A written path gives the path back, slash and all, so that no two paths become one; only a path
that is written with a drive in front is read from the drive on. -/
theorem ofUri_scheme_append_escaped {p e : Text} (rooted : IsRooted p) (escaped : Escaped p e) :
    (¬StartsWithDrive e → ¬StartsWithMark e →
      ofUri (scheme ++ e) = p ∧ isAbsoluteText (ofUri (scheme ++ e)) = true ∧
        ∀ q f, IsRooted q → Escaped q f → ¬StartsWithDrive f → ¬StartsWithMark f →
          ofUri (scheme ++ f) = ofUri (scheme ++ e) → q = p) ∧
      (StartsWithDrive e → ofUri (scheme ++ e) = p.drop 1) := by
  refine ⟨fun noDrive noMark => ?_, ofUri_of_drive rooted escaped⟩
  have back := ofUri_of_no_drive rooted escaped noDrive noMark
  refine ⟨back, ?_, fun q f rooted' escaped' noDrive' noMark' same => ?_⟩
  · obtain ⟨q, rfl, _⟩ := rooted
    rw [back]
    rfl
  · rw [← ofUri_of_no_drive rooted' escaped' noDrive' noMark', same, back]

theorem ofUri_scheme_append_escaped_letter :
    IsRooted (text "/c/é%") ∧ Escaped (text "/c/é%") (text "/%63/%C3%A9%25") ∧
      ¬StartsWithDrive (text "/%63/%C3%A9%25") ∧ ¬StartsWithMark (text "/%63/%C3%A9%25") ∧
      ofUri (scheme ++ text "/%63/%C3%A9%25") = text "/c/é%" := by
  have rooted : IsRooted (text "/c/é%") := ⟨text "c/é%", rfl, by decide⟩
  have letter : Escapes (encodeChar 0x63) (text "%63") :=
    .cons (a := 6) (b := 3) rfl rfl .nil
  have accented : Escapes (encodeChar 0xE9) (text "%C3%A9") :=
    .cons (a := 0xC) (b := 3) rfl rfl (.cons (a := 0xA) (b := 9) rfl rfl .nil)
  have sign : Escapes (encodeChar percent) (text "%25") :=
    .cons (a := 2) (b := 5) rfl rfl .nil
  have escaped : Escaped (text "/c/é%") (text "/%63/%C3%A9%25") :=
    .bare (by decide) (.escape (by decide) (by decide) letter (.bare (by decide)
      (.escape (by decide) (by decide) accented (.escape (by decide) (by decide) sign .nil))))
  have noDrive : ¬StartsWithDrive (text "/%63/%C3%A9%25") := by
    intro given
    obtain ⟨c, rest, letter, same⟩ := given
    cases same
  have noMark : ¬StartsWithMark (text "/%63/%C3%A9%25") := by
    intro given
    obtain ⟨c, rest, letter, same⟩ := given
    cases same
  exact ⟨rooted, escaped, noDrive, noMark,
    ((ofUri_scheme_append_escaped rooted escaped).1 noDrive noMark).1⟩

/-- A path that starts like a drive is read as one and loses its slash. So does one whose first name
is only a letter, which is no drive. -/
theorem ofUri_drops_slash :
    (IsRooted (text "/C:/x") ∧ Escaped (text "/C:/x") (text "/C:/x") ∧
      ofUri (scheme ++ text "/C:/x") = text "C:/x") ∧
    (IsRooted (text "/c/x") ∧ Escaped (text "/c/x") (text "/c/x") ∧
      ofUri (scheme ++ text "/c/x") = text "c/x") := by
  refine ⟨⟨⟨text "C:/x", rfl, by decide⟩, escaped_self (by decide), ?_⟩,
    ⟨text "c/x", rfl, by decide⟩, escaped_self (by decide), ?_⟩
  · have escaped : Escaped (text "/C:/x") (text "/C:/x") := escaped_self (by decide)
    exact ofUri_of_drive ⟨text "C:/x", rfl, by decide⟩ escaped ⟨0x43, text "x", rfl, rfl⟩
  · rw [show text "/c/x" = slash :: text "c/x" from rfl, ofUri_scheme_slash,
      show startsAtRoot (text "c/x") = true from rfl, if_pos rfl]
    exact decode_escaped (escaped_self (by decide))

/-! ### Without a scheme -/

/-- A URI without scheme that spells some bytes names the one path that stands for them, from which
they are taken back. If they are the UTF-8 of a text, such as one with escapes of its own, the path is
this text as it is. -/
theorem ofUri_of_spells {e : Text} {s : Bytes} (spells : Spells e s) (other : ¬scheme <+: e) :
    (∀ t, StandsFor t s ↔ t = ofUri e) ∧
      (∀ c ∈ ofUri e, IsScalar c ∨ 0xDC80 ≤ c ∧ c ≤ 0xDCFF) ∧ encodeEscaping (ofUri e) = s ∧
      ∀ t, (∀ c ∈ t, IsScalar c) → s = encode t → ofUri e = t := by
  have unescaped : ofUri e = Text.Percent.decode e := by
    rw [ofUri, withoutScheme, after?_eq_none other]
  have stands := Text.Percent.standsFor_decode spells
  rw [← unescaped] at stands
  refine ⟨fun t => ⟨fun first => first.unique stands, fun same => same ▸ stands⟩,
    stands.scalar_or_stray spells.bytes_lt, stands.encodeEscaping_eq spells.bytes_lt, ?_⟩
  rintro t scalar rfl
  exact stands.unique (Text.Utf8.standsFor_encode scalar)

theorem ofUri_of_spells_mixed :
    let e := text "a%2520%c3%A9" ++ text "%C3é"
    let s := text "a%20" ++ [0xC3, 0xA9] ++ [0xC3] ++ [0xC3, 0xA9]
    Spells e s ∧ ¬scheme <+: e ∧ ofUri e = text "a%20é" ++ [0xDCC3] ++ text "é" ∧
      encodeEscaping (ofUri e) = s := by
  intro e s
  have last : Spells (text "é") [0xC3, 0xA9] := .char (by decide) (by decide) .nil
  have stray : Spells (text "%C3é") ([0xC3] ++ [0xC3, 0xA9]) :=
    .escaped (a := 0xC) (b := 3) rfl rfl last
  have accented : Spells (text "%c3%A9" ++ text "%C3é") ([0xC3, 0xA9] ++ [0xC3] ++ [0xC3, 0xA9]) :=
    .escaped (a := 0xC) (b := 3) rfl rfl (.escaped (a := 0xA) (b := 9) rfl rfl stray)
  have spells : Spells e s :=
    .ascii rfl (by decide) (.escaped (a := 2) (b := 5) rfl rfl
      (.ascii rfl (by decide) (.ascii rfl (by decide) accented)))
  have other : ¬scheme <+: e := by decide
  exact ⟨spells, other, by decide +kernel, (ofUri_of_spells spells other).2.2.1⟩

end CheckReport.Path
