import Shoreline.Store.Record

/-!
# `Shoreline.Verification` — sending the verification mail again

A mail can be sent again to an address only after three minutes. The time of the last one is kept in
the store, under a key of the address, in milliseconds.

## Contents
- `cooldownSeconds`, `Store.resendStamp?`, `Store.cooldown`, `Store.stampResend`.
- `ResendFault` with its messages.
-/

namespace Shoreline

open Text

/-- The seconds between two mails to one address. -/
def cooldownSeconds : Int := 180

/-- A whole number of 64 bits with sign, as a text. -/
def readStamp (raw : String) : Option Int :=
  (Decimal.integer? (trimWith (· = '"') (trim raw)).toList).filter fun i =>
    -0x8000000000000000 ≤ i ∧ i < 0x8000000000000000

/-- The seconds that are left at `now` of the wait after a mail at `sent`, both in milliseconds. -/
def cooldownAt (sent now : Int) : Int :=
  max 0 (min cooldownSeconds (cooldownSeconds - (now - sent) / 1000))

namespace Store

/-- When the last mail was sent to an address, if that is known. -/
def resendStamp? (s : Store) (email : String) : Option Int :=
  (s.get? (Key.resend email)).bind readStamp

/-- The seconds until a mail may be sent to an address; zero if one may be sent now. -/
def cooldown (s : Store) (email : String) (now : Int) : Int :=
  match s.resendStamp? email with
  | some sent => cooldownAt sent now
  | none => 0

/-- Take note of a mail, if that can be stored. -/
def stampResend (s : Store) (email : String) (now : Int) : Store :=
  s.attempt (s.set (Key.resend email) (String.ofList (Decimal.signed now)))

end Store

/-- Why no mail was sent. -/
inductive ResendFault
  /-- So many seconds have to pass. -/
  | coolingDown (seconds : Int)
  /-- The server has sent one recently. -/
  | recentlySent
  | failed (failure : Failure)

namespace ResendFault

/-- The text of a fault. -/
def message : ResendFault → String
  | coolingDown seconds => "Resend available in " ++ String.ofList (Decimal.signed seconds) ++ "s"
  | recentlySent => "Verification email was sent recently"
  | failed failure => failure.message

/-- What to tell the user. -/
def userMessage : ResendFault → String
  | coolingDown _ => "인증 이메일이 최근에 발송되었습니다. 잠시 후 다시 시도해주세요."
  | recentlySent => "인증 이메일이 최근에 발송되었습니다. 잠시 후 다시 시도해주세요."
  | failed (.refused _) => "이메일 발송에 실패했습니다. 잠시 후 다시 시도해주세요."
  | failed _ => "네트워크 오류가 발생했습니다."

end ResendFault

/-- What to tell the user when a mail was sent. -/
def resentNotice : String := "인증 이메일을 다시 발송했습니다. 잠시 후 확인해주세요."

/-- The server refuses because it has sent a mail recently. -/
def namesRecentSend (r : Refusal) : Bool := r.status == 400 && contains r.message "최근에 발송되었습니다"

end Shoreline
