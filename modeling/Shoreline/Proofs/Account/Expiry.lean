import Shoreline.Account
import Shoreline.Proofs.Json.Record

/-!
# `Shoreline.Proofs.Account.Expiry` — when a session counts as expired

The lifetime of an access token ends at a millisecond, and a session counts as expired once the clock,
put forward by the buffer, has reached it. The comparison is made between instants, and not every
millisecond is an instant. A lifetime that ends before the first instant is over at all of them, and
that is what the fallback says. One that ends after the last instant falls back the same way, so the
longest sessions of all count as expired from the start.

## Contents
- `Instant.firstMilli`, `Instant.lastMilli`, `Instant.InRange`; `Instant.ofMillis?_of_inRange`.
- `Session.lapse`; `isExpired_of_inRange`, `isExpired_of_not_inRange`, `isExpired_iff`.
- `Session.expires_by_formula_iff`, with a session that ends at the last millisecond, and
  `Session.longest_session_expired`.
-/

namespace Shoreline

open Json Time

/-! ## Milliseconds that are instants -/

namespace Time.Instant

/-- The first millisecond that can be represented. -/
def firstMilli : Int := minSeconds * 1000

/-- The last millisecond that can be represented. -/
def lastMilli : Int := maxSeconds * 1000 + 999

/-- A millisecond can be represented as an instant. -/
def InRange (ms : Int) : Prop := firstMilli ≤ ms ∧ ms ≤ lastMilli

instance : DecidablePred InRange := fun ms =>
  inferInstanceAs (Decidable (firstMilli ≤ ms ∧ ms ≤ lastMilli))

/-- The seconds of a millisecond lie in their range exactly if the millisecond does. -/
theorem seconds_inRange_iff {ms : Int} :
    (minSeconds ≤ ms / 1000 ∧ ms / 1000 ≤ maxSeconds) ↔ InRange ms := by
  unfold InRange firstMilli lastMilli
  omega

theorem ofMillis?_of_inRange {ms : Int} (h : InRange ms) : ofMillis? ms = some (ofMillis ms) :=
  if_pos (seconds_inRange_iff.mpr h)

theorem ofMillis?_of_not_inRange {ms : Int} (h : ¬ InRange ms) : ofMillis? ms = none :=
  if_neg fun hseconds => h (seconds_inRange_iff.mp hseconds)

/-- The least instant is that of the first millisecond. -/
theorem ofMillis_firstMilli : ofMillis firstMilli = least := by decide

theorem addSeconds_ofMillis (ms s : Int) : (ofMillis ms).addSeconds s = ofMillis (ms + s * 1000) := by
  have hseconds : ms / 1000 + s = (ms + s * 1000) / 1000 := by omega
  have hpart : ms % 1000 = (ms + s * 1000) % 1000 := by omega
  unfold addSeconds ofMillis
  dsimp only
  rw [hseconds, hpart]

end Time.Instant

/-! ## Sessions -/

namespace Session

/-- The millisecond at which the lifetime of the access token is over. -/
def lapse (s : Session) : Int := s.issuedAt + s.expiresIn * 1000

variable {s : Session}

/-- **A lifetime that ends at an instant is compared with the clock** put forward by the buffer. -/
theorem isExpired_of_inRange (h : Instant.InRange s.lapse) (now buffer : Int) :
    s.isExpired (.ofMillis now) buffer = true ↔ s.lapse ≤ now + buffer * 1000 := by
  have hexpires : s.expiresAt = .ofMillis s.lapse := by
    have hinstant : Instant.ofMillis? (s.issuedAt + s.expiresIn * 1000) = some (.ofMillis s.lapse) :=
      Instant.ofMillis?_of_inRange h
    unfold expiresAt
    rw [hinstant]
    rfl
  unfold isExpired
  rw [hexpires, Instant.addSeconds_ofMillis, Instant.atMost_ofMillis, decide_eq_true_iff]

/-- A lifetime that does not is over at every instant. -/
theorem isExpired_of_not_inRange (h : ¬ Instant.InRange s.lapse) {now buffer : Int}
    (clock : Instant.InRange (now + buffer * 1000)) : s.isExpired (.ofMillis now) buffer = true := by
  have hexpires : s.expiresAt = .ofMillis Instant.firstMilli := by
    have hnone : Instant.ofMillis? (s.issuedAt + s.expiresIn * 1000) = none :=
      Instant.ofMillis?_of_not_inRange h
    unfold expiresAt
    rw [hnone, Instant.ofMillis_firstMilli]
    rfl
  unfold isExpired
  rw [hexpires, Instant.addSeconds_ofMillis, Instant.atMost_ofMillis, decide_eq_true_iff]
  exact clock.1

/-- **A session has expired when its lifetime is over, or when the end of it cannot be represented
because it comes too late.** -/
theorem isExpired_iff {now buffer : Int} (clock : Instant.InRange (now + buffer * 1000)) :
    s.isExpired (.ofMillis now) buffer = true ↔
      s.lapse ≤ now + buffer * 1000 ∨ Instant.lastMilli < s.lapse := by
  obtain ⟨hfirst, hlast⟩ := clock
  by_cases h : Instant.InRange s.lapse
  · rw [isExpired_of_inRange h]
    have hend := h.2
    omega
  · have hout : s.lapse < Instant.firstMilli ∨ Instant.lastMilli < s.lapse := by
      unfold Instant.InRange at h
      omega
    exact iff_of_true (isExpired_of_not_inRange h ⟨hfirst, hlast⟩) (by omega)

/-- **A session expires by the formula exactly if its lifetime does not end after the last instant.** The
clock, put forward by the buffer, shows an instant. Then whether the session has expired is whether the
clock has reached the end of its lifetime if and only if that end comes no later than the last
millisecond that can be represented; it may well come before the first. In any case a session that has
expired stays so at later times and with larger buffers. A session that was granted at the same time for
longer has not expired before this one, if it too ends no later than that millisecond; if it ends later
it has, unless this one has expired already. -/
theorem expires_by_formula_iff (s : Session) {now buffer : Int}
    (clock : Instant.InRange (now + buffer * 1000)) :
    ((s.isExpired (.ofMillis now) buffer = true ↔ s.lapse ≤ now + buffer * 1000) ↔
      s.lapse ≤ Instant.lastMilli) ∧
    (s.isExpired (.ofMillis now) buffer = true → ∀ later more, now ≤ later → buffer ≤ more →
      Instant.InRange (later + more * 1000) → s.isExpired (.ofMillis later) more = true) ∧
    ∀ t : Session, t.issuedAt = s.issuedAt → s.expiresIn ≤ t.expiresIn →
      ((t.isExpired (.ofMillis now) buffer = true → s.isExpired (.ofMillis now) buffer = true) ↔
        t.lapse ≤ Instant.lastMilli ∨ s.isExpired (.ofMillis now) buffer = true) := by
  have hclock := clock.2
  refine ⟨?_, ?_, ?_⟩
  · rw [isExpired_iff clock]
    omega
  · intro hexpired later more hlater hmore hrange
    have hnow := (isExpired_iff clock).mp hexpired
    exact (isExpired_iff hrange).mpr (by omega)
  · intro t hissued hlonger
    have hlapse : s.lapse ≤ t.lapse := by
      unfold lapse
      omega
    rw [isExpired_iff clock, isExpired_iff clock]
    omega

/-- A user of whom only the id is known. -/
def lodger : Profile := ⟨"u", "", "", "", "", none⟩

/-- A session that was granted at a time for so many seconds. -/
def lasting (issuedAt expiresIn : Int) : Session := ⟨"a", "r", "Bearer", expiresIn, lodger, issuedAt⟩

/-- A session that ends at the last millisecond of all: half a minute before, it counts as expired, and a
millisecond earlier it does not. One that was granted for a second less has expired when it has. -/
theorem expires_by_formula_iff_last :
    (lasting 999 8210266876799).lapse = Instant.lastMilli ∧
    Instant.InRange (8210266876769999 + 30 * 1000) ∧ Instant.InRange (8210266876769998 + 30 * 1000) ∧
    (lasting 999 8210266876799).isExpired (.ofMillis 8210266876769999) 30 = true ∧
    (lasting 999 8210266876799).isExpired (.ofMillis 8210266876769998) 30 = false ∧
    (lasting 999 8210266876798).isExpired (.ofMillis 8210266876769999) 30 = true := by
  have hlapse : (lasting 999 8210266876799).lapse = Instant.lastMilli := by decide
  have hreached : Instant.InRange (8210266876769999 + 30 * 1000) := by decide
  have hbefore : Instant.InRange (8210266876769998 + 30 * 1000) := by decide
  obtain ⟨hformula, -, -⟩ := expires_by_formula_iff (lasting 999 8210266876799) hreached
  obtain ⟨hearlier, -, -⟩ := expires_by_formula_iff (lasting 999 8210266876799) hbefore
  obtain ⟨-, -, hlonger⟩ := expires_by_formula_iff (lasting 999 8210266876798) hreached
  have hin : (lasting 999 8210266876799).lapse ≤ Instant.lastMilli := Int.le_of_eq hlapse
  have hexpired := (hformula.mpr hin).mpr (by decide)
  refine ⟨hlapse, hreached, hbefore, hexpired, ?_, ?_⟩
  · exact Bool.eq_false_iff.mpr fun h => absurd ((hearlier.mpr hin).mp h) (by decide)
  · exact (hlonger (lasting 999 8210266876799) rfl (by decide)).mpr (.inl hin) hexpired

/-- **The longest sessions count as expired when they are granted.** A session of nine million million
seconds, the end of which 64 bits hold in milliseconds, has expired at the very instant at which it
was granted, although one that is shorter has not. -/
theorem longest_session_expired :
    IsInt64 (lasting 0 9000000000000).lapse ∧ Instant.InRange (0 + 0 * 1000) ∧
    ¬ (lasting 0 9000000000000).lapse ≤ 0 + 0 * 1000 ∧
    (lasting 0 9000000000000).isExpired (.ofMillis 0) 0 = true ∧
    (lasting 0 8000000000000).isExpired (.ofMillis 0) 0 = false := by
  unfold IsInt64
  decide

end Session

end Shoreline
