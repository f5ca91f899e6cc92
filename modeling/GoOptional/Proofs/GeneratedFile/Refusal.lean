import Mathlib
import GoOptional.Proofs.GeneratedFile.LineEndings
import GoOptional.Proofs.Text.Fault

/-!
# What a refusal says

A unit is not added to every file. Three things are looked for, one after the other: bytes that
are no text, a carriage return before a line feed, and a header that is missing or bad. The first
one that is found is what the refusal says, and it is found in the bytes of the file alone.

## Main results

* `GeneratedFile.Anchor.ofBytes_cases`: what is found in bytes, and in which order
* `GeneratedFile.update_eq_error_iff`: which refusal there is, for all bytes and all requests
-/

namespace GoOptional.GeneratedFile

variable {existing : Bytes} {fault : Utf8.Fault}

namespace Anchor

/-! ## What is looked for in bytes -/

theorem ofBytes_of_decode (h : Utf8.decode existing = .error fault) :
    ofBytes existing = .error (.notUtf8 fault) := by
  rw [ofBytes, h]

/-- **What is found in bytes**: that they are no text, else a carriage return before a line feed,
else the header of the text. -/
theorem ofBytes_cases (existing : Bytes) :
    (∃ fault, Utf8.decode existing = .error fault ∧
      ofBytes existing = .error (.notUtf8 fault)) ∨
    (∃ s, existing = Utf8.encode s ∧ BreaksLine existing ∧ ofBytes existing = .error .crlf) ∨
    ∃ s, existing = Utf8.encode s ∧ ¬ BreaksLine existing ∧
      ofBytes existing = (ofText s).mapError .badHeader := by
  cases hd : Utf8.decode existing with
  | error fault => exact .inl ⟨fault, rfl, ofBytes_of_decode hd⟩
  | ok s =>
    obtain rfl := Utf8.decode_eq_ok_iff.1 hd
    right
    rw [ofBytes, hd]
    by_cases hbreaks : BreaksLine (Utf8.encode s)
    · exact .inl ⟨s, rfl, hbreaks, if_pos (breaksLine_encode_iff.1 hbreaks)⟩
    · refine .inr ⟨s, rfl, hbreaks, (if_neg (breaksLine_encode_iff.not.1 hbreaks)).trans ?_⟩
      cases ofText s <;> rfl

theorem ofBytes_eq_notUtf8_iff : ofBytes existing = .error (.notUtf8 fault) ↔
    ¬ Utf8.WellFormed existing ∧ Utf8.IsFirstFault existing fault := by
  rw [← Utf8.decode_eq_error_iff]
  rcases ofBytes_cases existing with ⟨fault', hd, h⟩ | ⟨s, rfl, -, h⟩ | ⟨s, rfl, -, h⟩
  · rw [h, hd]
    simp
  · rw [h, Utf8.decode_encode]
    simp
  · rw [h, Utf8.decode_encode]
    cases ofText s <;> simp [Except.mapError]

theorem ofBytes_eq_crlf_iff : ofBytes existing = .error .crlf ↔
    Utf8.WellFormed existing ∧ BreaksLine existing := by
  rcases ofBytes_cases existing with
    ⟨fault', hd, h⟩ | ⟨s, rfl, hbreaks, h⟩ | ⟨s, rfl, hbreaks, h⟩
  · have hbs := (Utf8.decode_eq_error_iff.1 hd).1
    rw [h]
    simp [hbs]
  · exact iff_of_true h ⟨⟨s, rfl⟩, hbreaks⟩
  · rw [h]
    cases ofText s <;> simp [Except.mapError, hbreaks]

/-- What is found in a text without a carriage return before a line feed is what its header is. -/
theorem ofBytes_eq_mapError_iff (found : Except HeaderError Anchor) :
    ofBytes existing = found.mapError .badHeader ↔
      ∃ s, existing = Utf8.encode s ∧ ¬ BreaksLine existing ∧ ofText s = found := by
  rcases ofBytes_cases existing with
    ⟨fault', hd, h⟩ | ⟨s, rfl, hbreaks, h⟩ | ⟨s, rfl, hbreaks, h⟩
  · have hbs := (Utf8.decode_eq_error_iff.1 hd).1
    refine iff_of_false ?_ (fun ⟨s, hs, _⟩ => hbs ⟨s, hs⟩)
    rw [h]
    cases found <;> simp [Except.mapError]
  · rw [h]
    cases found <;> simp [Except.mapError, hbreaks]
  · rw [h]
    simp only [Utf8.encode_injective.eq_iff, hbreaks, not_false_eq_true, true_and,
      exists_eq_left']
    cases ofText s <;> cases found <;> simp [Except.mapError]

end Anchor

/-! ## Refusals -/

theorem update_eq_error_iff_ofBytes {r : Request} {e : UpdateError} :
    update r existing = .error e ↔ r.append = true ∧ Anchor.ofBytes existing = .error e := by
  rw [update]
  cases r.append with
  | false => simp
  | true => cases Anchor.ofBytes existing <;> simp

theorem exists_update_eq_ok_iff {r : Request} : (∃ outcome, update r existing = .ok outcome) ↔
    (r.append = true → ∃ anchor, Anchor.ofBytes existing = .ok anchor) := by
  rw [update]
  cases r.append with
  | false => simp
  | true => cases Anchor.ofBytes existing <;> simp

/-- **Which refusal there is.** A request to add a unit is refused for bytes that are no text, and
the refusal names the first fault of the bytes; else for a carriage return before a line feed; else
for the header that the text has; and else there is an outcome. Only the bytes decide, and a request
that adds nothing is never refused. -/
theorem update_eq_error_iff (r : Request) (existing : Bytes) :
    ((∃ fault, update r existing = .error (.notUtf8 fault)) ↔
      r.append = true ∧ ¬ Utf8.WellFormed existing) ∧
    (∀ fault, update r existing = .error (.notUtf8 fault) ↔
      r.append = true ∧ ¬ Utf8.WellFormed existing ∧ Utf8.IsFirstFault existing fault) ∧
    (update r existing = .error .crlf ↔
      r.append = true ∧ Utf8.WellFormed existing ∧ BreaksLine existing) ∧
    (∀ e, update r existing = .error (.badHeader e) ↔ r.append = true ∧
      ∃ s, existing = Utf8.encode s ∧ ¬ BreaksLine existing ∧ Anchor.ofText s = .error e) ∧
    ((∃ outcome, update r existing = .ok outcome) ↔ (r.append = true →
      ∃ s anchor, existing = Utf8.encode s ∧ ¬ BreaksLine existing ∧
        Anchor.ofText s = .ok anchor)) ∧
    (∀ index length, (UpdateError.notUtf8 (.invalid index length)).message =
      "existing content is not valid UTF-8: ".toList ++ ("invalid utf-8 sequence of ".toList ++
        Text.ofNat length ++ " bytes from index ".toList ++ Text.ofNat index)) ∧
    (∀ index, (UpdateError.notUtf8 (.incomplete index)).message =
      "existing content is not valid UTF-8: ".toList ++
        ("incomplete utf-8 byte sequence from index ".toList ++ Text.ofNat index)) := by
  have hfault (fault : Utf8.Fault) : update r existing = .error (.notUtf8 fault) ↔
      r.append = true ∧ ¬ Utf8.WellFormed existing ∧ Utf8.IsFirstFault existing fault := by
    rw [update_eq_error_iff_ofBytes, Anchor.ofBytes_eq_notUtf8_iff]
  refine ⟨?notUtf8, hfault, ?crlf, ?badHeader, ?ok, fun _ _ => rfl, fun _ => rfl⟩
  case notUtf8 =>
    constructor
    · rintro ⟨fault, h⟩
      exact ⟨((hfault fault).1 h).1, ((hfault fault).1 h).2.1⟩
    · rintro ⟨happend, hbs⟩
      obtain ⟨fault, hd⟩ := Utf8.exists_decode_eq_error hbs
      exact ⟨fault, update_eq_error_iff_ofBytes.2 ⟨happend, Anchor.ofBytes_of_decode hd⟩⟩
  case crlf => rw [update_eq_error_iff_ofBytes, Anchor.ofBytes_eq_crlf_iff]
  case badHeader =>
    intro e
    rw [update_eq_error_iff_ofBytes]
    exact and_congr_right fun _ => Anchor.ofBytes_eq_mapError_iff (.error e)
  case ok =>
    rw [exists_update_eq_ok_iff]
    refine imp_congr_right fun _ => ?_
    rw [exists_comm]
    exact exists_congr fun a => Anchor.ofBytes_eq_mapError_iff (.ok a)

end GoOptional.GeneratedFile
