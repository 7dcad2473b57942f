import Shoreline.Proofs.Json.Record
import Shoreline.Proofs.Store.Change

/-!
# `Shoreline.Proofs.Store.Stamp` — the time of a mail is read back

The time of the last mail to an address is kept as a text, under a key of the address. A text that makes
no sense counts as missing, and then there is no wait; so it matters that every time that is noted is read
back, and that the note for one address is not taken for that of another.

## Contents
- `readStamp_signed`, `Key.resend_injective`.
- `Store.resendStamp?_stampResend`: all stamps after one was noted.
- `cooldownAt_pos_iff`, `Store.cooldown_of_stamp`, `Store.cooldown_pos_iff`, `Store.cooldown_congr`.
-/

namespace Shoreline

open Text Json

/-! ## Stamps as texts -/

/-- A number is written with digits and perhaps a minus sign. -/
theorem eq_minus_or_isDigit_of_mem_signed {i : Int} {c : Char} (h : c ∈ Decimal.signed i) :
    c = '-' ∨ c.isDigit = true := by
  unfold Decimal.signed at h
  split at h
  · rcases List.mem_cons.mp h with hminus | hdigit
    · exact .inl hminus
    · exact .inr (Decimal.isDigit_of_mem_numeral hdigit)
  · exact .inr (Decimal.isDigit_of_mem_numeral h)

/-- **A time that is noted is read back.** -/
theorem readStamp_signed {now : Int} (h : IsInt64 now) :
    readStamp (String.ofList (Decimal.signed now)) = some now := by
  -- neither blanks nor quotes stand around a number, so nothing is trimmed
  have hblank : trim (String.ofList (Decimal.signed now)) = String.ofList (Decimal.signed now) := by
    refine trimWith_eq_self fun c hc => ?_
    rw [String.toList_ofList] at hc
    rcases eq_minus_or_isDigit_of_mem_signed hc with rfl | hdigit
    · decide
    · exact isBlank_of_isDigit hdigit
  have hquote : trimWith (· = '"') (String.ofList (Decimal.signed now)) =
      String.ofList (Decimal.signed now) := by
    refine trimWith_eq_self fun c hc => decide_eq_false ?_
    rw [String.toList_ofList] at hc
    rintro rfl
    rcases eq_minus_or_isDigit_of_mem_signed hc with hminus | hdigit
    · cases hminus
    · cases hdigit
  have hbounds : -0x8000000000000000 ≤ now ∧ now < 0x8000000000000000 := h
  unfold readStamp
  rw [hblank, hquote, String.toList_ofList, Decimal.integer?_signed, Option.filter_some,
    if_pos (decide_eq_true hbounds)]

/-- Each address has a key of its own. -/
theorem Key.resend_injective {a b : String} (h : Key.resend a = Key.resend b) : a = b :=
  (String.append_right_inj _).mp h

namespace Store

/-- **After a mail was noted, it is the last one to its address, and nothing else has changed.** -/
theorem resendStamp?_stampResend {s : Store} (sound : s.fault = none) {now : Int} (h : IsInt64 now)
    (email address : String) : (s.stampResend email now).resendStamp? address =
      if email = address then some now else s.resendStamp? address := by
  obtain ⟨t, ht⟩ : ∃ t, s.set (Key.resend email) (String.ofList (Decimal.signed now)) = .ok t := by
    unfold set write
    rw [sound]
    exact ⟨_, rfl⟩
  have hstore : s.stampResend email now = t := by
    unfold stampResend
    rw [ht]
    rfl
  unfold resendStamp?
  rw [hstore, get?_set ht]
  by_cases heq : email = address
  · rw [if_pos heq, if_pos (congrArg Key.resend heq.symm)]
    rw [Option.bind_some]
    exact readStamp_signed h
  · rw [if_neg heq, if_neg fun hkey => heq (Key.resend_injective hkey).symm]

end Store

/-! ## Waits -/

/-- One has to wait after a mail exactly for three minutes. -/
theorem cooldownAt_pos_iff (sent now : Int) : 0 < cooldownAt sent now ↔ now < sent + 180000 := by
  unfold cooldownAt cooldownSeconds
  omega

namespace Store

section Stamped

variable {s : Store} {address : String} {sent : Int} (h : s.resendStamp? address = some sent) (now : Int)

include h

theorem cooldown_of_stamp : s.cooldown address now = cooldownAt sent now := by
  unfold cooldown
  rw [h]

theorem cooldown_pos_iff : 0 < s.cooldown address now ↔ now < sent + 180000 := by
  rw [cooldown_of_stamp h]
  exact cooldownAt_pos_iff sent now

end Stamped

/-- How long one has to wait depends on the stamp alone. -/
theorem cooldown_congr {s t : Store} {address : String}
    (h : t.resendStamp? address = s.resendStamp? address) (now : Int) :
    t.cooldown address now = s.cooldown address now := by
  unfold cooldown
  rw [h]

end Store

end Shoreline
