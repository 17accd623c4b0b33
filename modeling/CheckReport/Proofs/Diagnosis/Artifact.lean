import Mathlib
import CheckReport.Diagnosis.Artifact
import CheckReport.Proofs.Json.Limits
import CheckReport.Proofs.Text.Utf8

/-!
# How artifacts are read

An artifact gives a diagnosis or is found malformed, except that it is not read at all where it is no
UTF-8 or goes beyond the limits of JSON documents (`load_isDocumented_iff`).
-/

namespace CheckReport.Artifact

open Diagnosis (Malformed)
open Text.Utf8 (Bytes)

/-- Whether a reading gives a diagnosis or says that there is a malformed one. -/
def IsDocumented (reading : Except Fault Diagnosis) : Prop :=
  (∃ diagnosis, reading = .ok diagnosis) ∨ ∃ fault, reading = .error (.malformed fault)

theorem isDocumented_ok (diagnosis : Diagnosis) : IsDocumented (.ok diagnosis) :=
  .inl ⟨diagnosis, rfl⟩

theorem isDocumented_malformed (fault : Malformed) : IsDocumented (.error (.malformed fault)) :=
  .inr ⟨fault, rfl⟩

theorem not_isDocumented_unreadable (fault : Unreadable) :
    ¬IsDocumented (.error (.unreadable fault)) := by
  intro given
  rcases given with ⟨_, same⟩ | ⟨_, same⟩
  · cases same
  · cases same

theorem isDocumented_ofValue (v : Json.Value) :
    IsDocumented ((Diagnosis.ofValue v).mapError .malformed) := by
  cases Diagnosis.ofValue v with
  | ok diagnosis => exact isDocumented_ok diagnosis
  | error fault => exact isDocumented_malformed fault

section

variable [Platform]

theorem load_of_file {site : Site} {path : Text} {executable : Bool} {content : Bytes}
    (file : site.at? path = .ok (some (.file executable content))) :
    load site path = read path content := by
  rw [load, file]

theorem read_of_undecodable {path : Text} {content : Bytes} {fault : Text.Utf8.Fault}
    (h : Text.Utf8.decode content = .error fault) :
    read path content = .error (.unreadable (.notText fault)) := by
  rw [read, h]
  rfl

theorem read_of_decode {path : Text} {content : Bytes} {document : Text}
    (h : Text.Utf8.decode content = .ok document) :
    read path content =
      (value path (withLineFeeds document) >>= fun v =>
        (Diagnosis.ofValue v).mapError .malformed) := by
  rw [read, h]
  rfl

/-- A document is read, or its problem is found, unless reading it comes to a limit. -/
theorem isDocumented_value_iff {path document : Text} :
    IsDocumented (value path document >>= fun v => (Diagnosis.ofValue v).mapError .malformed) ↔
      ¬Json.TooDeep document ∧ ∀ n, ¬Json.TooLong n document := by
  simp only [← Json.read_eq_tooDeep_iff, ← Json.read_eq_tooManyDigits_iff]
  unfold value
  cases read : Json.read document with
  | ok v => simpa [Bind.bind, Except.bind] using isDocumented_ofValue v
  | error fault =>
    cases fault with
    | malformed problem place =>
      simpa [Bind.bind, Except.bind] using isDocumented_malformed (.notJson path problem place)
    | tooDeep => simpa [Bind.bind, Except.bind] using not_isDocumented_unreadable .tooDeep
    | tooManyDigits n =>
      simpa [Bind.bind, Except.bind] using not_isDocumented_unreadable (.tooManyDigits n)

/-- Of the contents of a file, those give neither a diagnosis nor a malformed one that are no UTF-8,
or whose document nests too deep or holds an integer too long, with nothing wrong before it. -/
theorem load_isDocumented_iff {site : Site} {path : Text} {executable : Bool} {content : Bytes}
    (file : site.at? path = .ok (some (.file executable content))) :
    IsDocumented (load site path) ↔
      ∃ document, (∀ c ∈ document, Text.IsScalar c) ∧ content = Text.Utf8.encode document ∧
        ¬Json.TooDeep (withLineFeeds document) ∧
        ∀ n, ¬Json.TooLong n (withLineFeeds document) := by
  rw [load_of_file file]
  constructor
  · intro documented
    cases decoded : Text.Utf8.decode content with
    | error fault =>
      rw [read_of_undecodable decoded] at documented
      exact absurd documented (not_isDocumented_unreadable _)
    | ok document =>
      obtain ⟨scalar, spelled⟩ := Text.Utf8.decode_eq_ok_iff.mp decoded
      rw [read_of_decode decoded, isDocumented_value_iff] at documented
      exact ⟨document, scalar, spelled, documented⟩
  · intro given
    obtain ⟨document, scalar, spelled, within⟩ := given
    have decoded := Text.Utf8.decode_eq_ok_iff.mpr ⟨scalar, spelled⟩
    rw [read_of_decode decoded, isDocumented_value_iff]
    exact within

end

attribute [local instance] Platform.loose

theorem load_isDocumented_iff_clean :
    Site.at? ⟨⟨[([text "check.json"], .file false (text "\x7b\"a\": []\x7d"))]⟩, text "/"⟩
        (text "/check.json") = .ok (some (.file false (text "\x7b\"a\": []\x7d"))) ∧
      ∃ document, (∀ c ∈ document, Text.IsScalar c) ∧
        text "\x7b\"a\": []\x7d" = Text.Utf8.encode document ∧
        ¬Json.TooDeep (withLineFeeds document) ∧ ∀ n, ¬Json.TooLong n (withLineFeeds document) := by
  have file : Site.at? ⟨⟨[([text "check.json"], .file false (text "\x7b\"a\": []\x7d"))]⟩, text "/"⟩
      (text "/check.json") = .ok (some (.file false (text "\x7b\"a\": []\x7d"))) := by cbv
  have loaded : load ⟨⟨[([text "check.json"], .file false (text "\x7b\"a\": []\x7d"))]⟩, text "/"⟩
      (text "/check.json") = .ok [(text "a", [])] := by cbv
  exact ⟨file, (load_isDocumented_iff file).mp (.inl ⟨_, loaded⟩)⟩

/-- A byte that starts no character is enough to keep an artifact from being read. -/
theorem load_invalid_start :
    ¬IsDocumented (load ⟨⟨[([text "check.json"], .file false [0xFF])]⟩, text "/"⟩
      (text "/check.json")) := by
  have loaded : load ⟨⟨[([text "check.json"], .file false [0xFF])]⟩, text "/"⟩
      (text "/check.json") = .error (.unreadable (.notText ⟨0, [0xFF], .invalidStart⟩)) := by cbv
  rw [loaded]
  exact not_isDocumented_unreadable _

end CheckReport.Artifact
