import Shoreline.Proofs.Client.Traffic
import Shoreline.Proofs.Decimal.Length
import Shoreline.Proofs.Feed.Run
import Shoreline.Proofs.Url.Web

/-!
# `Shoreline.Proofs.Client.Fetch` — a fetch is sent from every place

The address of a fetch holds the coordinates of the device and the radius of the search, each as the text
of a double. Whether it can be sent depends on the address of the server and on the token, not on the
numbers: their texts are bounded, and nothing in them needs encoding. So a run can fetch from any place.

## Contents
- `send?_nearby`.
- `Client.begin_locate`: the report of a new place asks, once a fetch can be sent.
-/

namespace Shoreline

open Http Url

/-- **A fetch is sent, wherever the device is**, if the address of the server and the token allow it. -/
theorem send?_nearby {base : String} {a : Address}
    (hbase : Address.parse? (base ++ "/api/beaches") = some a) (hhost : a.namesHost = true)
    (hweb : a.isWeb = true) (short : a.text.utf8ByteSize ≤ 20000) {token : Option String}
    (htoken : (token.getD "").toList.all isHeaderChar = true) (here : Position) (radius : Float) :
    ∃ sent, (Api.nearby base here radius token).send? = .ok sent := by
  have hfull : ((Api.nearby base here radius token).destination a).isWeb = true := by
    apply Address.isWeb_withQuery (Address.isWeb_withoutCredentials hweb)
    have hbare := a.utf8ByteSize_withoutCredentials_le
    have hlat := Decimal.utf8ByteSize_plainFloat_le here.lat
    have hlng := Decimal.utf8ByteSize_plainFloat_le here.lng
    have hradius := Decimal.utf8ByteSize_plainFloat_le radius
    have hnames : "lat".utf8ByteSize = 3 ∧ "lon".utf8ByteSize = 3 ∧ "radiusKm".utf8ByteSize = 8 ∧
        "=".utf8ByteSize = 1 ∧ "&".utf8ByteSize = 1 := by decide
    simp only [Api.nearby, List.map_cons, List.map_nil, String.intercalate_cons_cons,
      String.intercalate_singleton, String.utf8ByteSize_append]
    omega
  exact ⟨_, Request.send?_of_parsed hbase hhost htoken hfull⟩

namespace Client

/-- The report of a new place asks for the beaches around it, if that can be sent. -/
theorem begin_locate {c : Client} {here : Position} (fresh : c.feed.isAt here = false)
    (hsent : ∃ sent, (Api.nearby c.base here c.settings.searchRadius c.token).send? = .ok sent) :
    ∃ sent, c.begin (.locate (.granted here)) =
      ({ c with feed := (c.feed.locate (.granted here)).1 }, .ask sent (.feed c.feed.started)) := by
  obtain ⟨sent, hsent⟩ := hsent
  have hticket : (c.feed.locate (.granted here)).2 = some (c.feed.started, here) := by
    unfold Feed.locate
    dsimp only
    rw [fresh]
    exact congrArg (fun n => some (n, here)) (Feed.callOff_started _)
  refine ⟨sent, ?_⟩
  show c.beginFetch _ = _
  unfold beginFetch
  rw [hticket]
  exact issue_of_sent _ _ hsent

end Client

end Shoreline
