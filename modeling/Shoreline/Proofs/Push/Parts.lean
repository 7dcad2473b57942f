import Shoreline.Push
import Shoreline.Proofs.Json.Slots

/-!
# `Shoreline.Proofs.Push.Parts` — what a message in the background shows of its parts

A message has a title, a body and something for the client, and each of them has a default of its own. But
the message is read as one record. So a title or a body of another type than a text leaves nothing of the
message, neither the other text nor what it carries, and so does a notification of another type. And
records are also read from arrays, so an array of two texts has a title and a body as well.

## Contents
- `isTextual`, `orElse_text`, `orElse_anything`: fields for a text, and for anything.
- `Wording.fits`, `Wording.ofMember`; `Wording.decoder_of_row`, `Wording.decoder_obj`, `Wording.decoder_arr`.
- `Wording.readable`, `Wording.stated`; `Wording.exists_of_readable`, `Wording.none_of_not_readable`.
- `carried?`, `Banner.showing`; `Banner.ofPayload_of_readable`, `Banner.ofPayload_of_not_readable`.
- `Banner.notice`, `Banner.partwise`: every part for itself; `Wording.IsUnseen`, `Banner.showing_eq_iff`.
- `Banner.parts_stand_alone_iff`, with a message that is shown part by part and one that is not, and
  `Banner.title_spoils_message`.
-/

namespace Shoreline.Push

open Json

/-! ## Fields -/

/-- A value in a place for a text: a text, or null in its absence. -/
def isTextual : Value → Bool
  | .null => true
  | .str _ => true
  | _ => false

@[simp] theorem isTextual_normal (v : Value) : isTextual v.normal = isTextual v := by
  cases v <;> rfl

/-- A field for a text is read exactly if a text or nothing stands there. -/
theorem orElse_text {r : Row} {name : String} {empty : FieldSlot} {v : Option Value}
    (hslot : r.slot name = .ofValue empty v) (hempty : ∀ d, empty ≠ .given d) :
    r.orElse name none Decoder.text.nullable =
      if isTextual (v.getD .null) then some (v.getD .null).asString? else none := by
  unfold Row.orElse
  rw [hslot]
  cases v with
  | none =>
    cases empty with
    | given d => exact absurd rfl (hempty d)
    | missing => rfl
    | cut => rfl
  | some w => cases w <;> rfl

/-- What stands in a place for anything, in normal form; null is nothing. -/
def given? : Value → Option Value
  | .null => none
  | v => some v.normal

/-- A field for anything is read from every value that is not too deep. -/
theorem orElse_anything {r : Row} {name : String} {v : Option Value}
    (hslot : r.slot name = .ofValue .missing v) (hroom : ∀ w ∈ v, w.depth ≤ r.room) :
    r.orElse name none Decoder.value.nullable = some (given? (v.getD .null)) := by
  unfold Row.orElse
  rw [hslot]
  cases v with
  | none => rfl
  | some w =>
    have hkeep : Decoder.value r.room w.taken = some w.normal := keep_taken w r.room (hroom w rfl)
    cases w with
    | null => rfl
    | _ => exact congrArg (Option.map some) hkeep

/-- Normal forms have nothing else to give. -/
@[simp] theorem given?_normal (v : Value) : given? v.normal = given? v := by
  have hnormal := v.normal_normal
  cases v with
  | arr items => exact congrArg some hnormal
  | obj members => exact congrArg some hnormal
  | _ => rfl

/-- In the normal form of an object stands the normal form of a member, or null. -/
theorem getD_lookup_normalMap (ms : List (String × Value)) (name : String) :
    ((Value.normalMap ms).entries.lookup name).getD .null = (Value.member ms name).normal := by
  have hlookup : (Value.normalMap ms).entries.lookup name =
      ((Text.SortedMap.ofList ms).get? name).map Value.normal := Value.get?_normalMap ms name
  rw [hlookup]
  unfold Value.member
  cases (Text.SortedMap.ofList ms).get? name <;> rfl

/-- Nothing that stands in the normal form of an object is deeper than what stands in the object. -/
theorem depth_le_of_lookup {ms : List (String × Value)} {name : String} {v : Value}
    (h : (Value.normalMap ms).entries.lookup name = some v) : v.depth ≤ Value.depthMembers ms := by
  have hle := Value.depth_normal_le (.obj ms)
  rw [Value.normal_obj] at hle
  exact Value.depthMembers_le_iff.mp (Nat.le_of_succ_le_succ hle) (name, v)
    (Text.SortedMap.mem_of_lookup h)

namespace Wording

/-! ## The text of a message -/

/-- The members of a text, in the order in which an array has them. -/
def fields : List String := ["title", "body"]

/-- What stands at the members of a text are texts, as far as anything stands there. -/
def fits (member : String → Value) : Bool := fields.all fun name => isTextual (member name)

/-- The text at whose members stand the given values. -/
def ofMember (member : String → Value) : Wording :=
  ⟨(member "title").asString?, (member "body").asString?⟩

/-- **A text is read from a row exactly if nothing but texts stands in its slots.** -/
theorem decoder_of_row {room : Nat} {d : Document} {r : Row} {member : String → Value}
    (empty : FieldSlot) (hempty : ∀ d, empty ≠ .given d) (hrow : d.row? fields room = some r)
    (hslot : ∀ name ∈ fields, ∃ v, r.slot name = .ofValue empty v ∧ v.getD .null = (member name).normal) :
    decoder room d = if fits member then some (ofMember member) else none := by
  have hread : ∀ name ∈ fields, r.orElse name none Decoder.text.nullable =
      if isTextual (member name) then some (member name).asString? else none := by
    intro name hname
    obtain ⟨v, hv, hvalue⟩ := hslot name hname
    rw [orElse_text hv hempty, hvalue, isTextual_normal, Value.asString?_normal]
  unfold fields at hread hrow
  simp only [List.forall_mem_cons] at hread
  obtain ⟨htitle, hbody, -⟩ := hread
  unfold decoder fits fields ofMember
  simp only [hrow, htitle, hbody, Option.bind_eq_bind, Option.bind_some, List.all_cons, List.all_nil,
    Bool.and_true]
  cases isTextual (member "title") <;> cases isTextual (member "body") <;> rfl

/-- An object is a text if its title and its body can be. -/
theorem decoder_obj (ms : List (String × Value)) (room : Nat) :
    decoder (room + 1) (Value.obj ms).normal.taken =
      if fits (Value.member ms) then some (ofMember (Value.member ms)) else none := by
  obtain ⟨r, hrow, -, hslot⟩ := Row.exists_of_taken (Value.normalMap ms).nodup_keys fields room
  rw [Value.normal_obj]
  exact decoder_of_row .missing nofun hrow fun name hname =>
    ⟨_, hslot name hname, getD_lookup_normalMap ms name⟩

/-- The item of an array that stands for a member: the one at its place, or null. -/
def itemAt (row : List Value) (name : String) : Value := row[fields.idxOf name]?.getD .null

/-- An array is a text if it has no more items than a text has members and they can be the title and the
body. -/
theorem decoder_arr (row : List Value) (room : Nat) :
    decoder (room + 1) (Value.arr row).normal.taken =
      if row.length ≤ fields.length ∧ fits (itemAt row) then some (ofMember (itemAt row)) else none := by
  rw [Value.normal, Value.normalItems_eq_map]
  by_cases hlength : row.length ≤ fields.length
  · have hitem : ∀ name, (row.map Value.normal)[fields.idxOf name]?.getD .null = (itemAt row name).normal := by
      intro name
      rw [List.getElem?_map]
      unfold itemAt
      cases row[fields.idxOf name]? <;> rfl
    have apart : fields.Nodup := by decide
    have hfilled : (row.map Value.normal).length ≤ fields.length := by rwa [List.length_map]
    obtain ⟨r, hrow, -, hslot⟩ := Row.exists_of_array apart hfilled room
    rw [decoder_of_row .cut nofun hrow fun name hname => ⟨_, hslot name hname, hitem name⟩]
    simp only [hlength, true_and]
  · have hrow : (Value.arr (row.map Value.normal)).taken.row? fields (room + 1) = none :=
      row?_long (by rw [List.length_map]; exact Nat.lt_of_not_le hlength) _
    rw [if_neg fun h => hlength h.1]
    unfold decoder
    rw [show Document.row? ["title", "body"] _ _ = none from hrow]
    rfl

/-- A value that can stand for the text of a message without spoiling the rest. -/
def readable : Value → Bool
  | .null => true
  | .obj ms => fits (Value.member ms)
  | .arr row => row.length ≤ fields.length && fits (itemAt row)
  | _ => false

/-- The text that is read from a value. -/
def stated : Value → Wording
  | .obj ms => ofMember (Value.member ms)
  | .arr row => ofMember (itemAt row)
  | _ => {}

/-- **What is readable is read**, and null is no text at all. -/
theorem exists_of_readable {v : Value} (h : readable v = true) (room : Nat) :
    ∃ w, decoder.nullable (room + 1) v.normal.taken = some w ∧ w.getD {} = stated v := by
  cases v with
  | null => exact ⟨none, rfl, rfl⟩
  | obj ms =>
    refine ⟨some (ofMember (Value.member ms)), ?_, rfl⟩
    show (decoder (room + 1) (Value.obj ms).normal.taken).map some = _
    rw [decoder_obj, if_pos (show fits (Value.member ms) = true from h)]
    rfl
  | arr row =>
    refine ⟨some (ofMember (itemAt row)), ?_, rfl⟩
    show (decoder (room + 1) (Value.arr row).normal.taken).map some = _
    rw [decoder_arr, if_pos (by simpa [readable] using h)]
    rfl
  | _ => cases h

/-- **Nothing else is.** -/
theorem none_of_not_readable {v : Value} (h : readable v = false) (room : Nat) :
    decoder.nullable (room + 1) v.normal.taken = none := by
  cases v with
  | null => cases h
  | obj ms =>
    show (decoder (room + 1) (Value.obj ms).normal.taken).map some = none
    rw [decoder_obj, show fits (Value.member ms) = false from h]
    rfl
  | arr row =>
    show (decoder (room + 1) (Value.arr row).normal.taken).map some = none
    rw [decoder_arr, if_neg (by simpa [readable] using h)]
    rfl
  | _ => rfl

end Wording

/-! ## The message as it is shown -/

/-- What a message carries for the client. -/
def carried? (ms : List (String × Value)) : Option Value := given? (Value.member ms "data")

namespace Banner

/-- The notification that shows a text, and what the message carries. -/
def showing (wording : Wording) (data : Option Value) : Banner :=
  ⟨(wording.title.filter (!·.isEmpty)).getD defaultTitle, wording.body.getD "", data⟩

/-- The notification for a message that says nothing. -/
def blank : Banner := showing {} none

/-- A message is shown as it is read, and one that cannot be read as if it said nothing. -/
theorem ofPayload_eq (payload : Value) :
    ofPayload payload = match Payload.decoder.fromValue? payload with
      | some p => showing (p.wording.getD {}) p.data
      | none => blank := by
  unfold ofPayload
  cases Payload.decoder.fromValue? payload <;> rfl

/-- What an object is read as, if it is read as a message. Whatever it carries can be read. -/
theorem fromValue?_obj (ms : List (String × Value)) :
    Payload.decoder.fromValue? (.obj ms) =
      (Wording.decoder.nullable (Value.obj ms).depth (Value.member ms "notification").normal.taken).map
        fun w => ⟨w, carried? ms⟩ := by
  obtain ⟨r, hrow, hroom, hslot⟩ := Row.exists_of_taken (Value.normalMap ms).nodup_keys
    ["notification", "data"] (Value.obj ms).depth
  simp only [List.forall_mem_cons] at hslot
  obtain ⟨hnotification, hdata, -⟩ := hslot
  have hread : r.orElse "notification" none Wording.decoder.nullable = Wording.decoder.nullable
      (Value.obj ms).depth (Value.member ms "notification").normal.taken := by
    rw [← getD_lookup_normalMap, ← hroom]
    unfold Row.orElse
    rw [hnotification]
    cases (Value.normalMap ms).entries.lookup "notification" <;> rfl
  have hcarried : r.orElse "data" none Decoder.value.nullable = some (carried? ms) := by
    rw [orElse_anything hdata fun w hw => hroom ▸ Nat.le_succ_of_le (depth_le_of_lookup hw),
      getD_lookup_normalMap, given?_normal]
    rfl
  unfold Decoder.fromValue? Value.toDocument Payload.decoder
  rw [Value.normal_obj]
  simp only [hrow, hread, hcarried, Option.bind_eq_bind, Option.bind_some]
  cases Wording.decoder.nullable (Value.obj ms).depth (Value.member ms "notification").normal.taken <;> rfl

variable {ms : List (String × Value)}

/-- **A message with a notification that can be read is shown with all that it says and carries.** -/
theorem ofPayload_of_readable (h : Wording.readable (Value.member ms "notification") = true) :
    ofPayload (.obj ms) = showing (Wording.stated (Value.member ms "notification")) (carried? ms) := by
  obtain ⟨w, hw, hstated⟩ := Wording.exists_of_readable h (Value.depthMembers ms)
  rw [ofPayload_eq, fromValue?_obj, show Wording.decoder.nullable (Value.obj ms).depth _ = some w from hw,
    ← hstated]
  rfl

/-- **Of any other nothing is shown.** -/
theorem ofPayload_of_not_readable (h : Wording.readable (Value.member ms "notification") = false) :
    ofPayload (.obj ms) = blank := by
  rw [ofPayload_eq, fromValue?_obj,
    show Wording.decoder.nullable (Value.obj ms).depth _ = none from Wording.none_of_not_readable h _]
  rfl

/-! ## Every part for itself -/

/-- What the notification says, if it is an object. -/
def notice (ms : List (String × Value)) : Wording :=
  match Value.member ms "notification" with
  | .obj inner => Wording.ofMember (Value.member inner)
  | _ => {}

/-- The notification in which every part of a message stands for itself. The title is that of the
notification object, if it is a text and not empty; the body is that of the notification object, if it is
a text; what the message carries is there unless it is null. -/
def partwise (ms : List (String × Value)) : Banner where
  title :=
    match (notice ms).title with
    | some t => if t = "" then defaultTitle else t
    | none => defaultTitle
  body := (notice ms).body.getD ""
  data := carried? ms

/-- An empty title is none. -/
theorem title_of_text (t : String) :
    ((some t).filter (!·.isEmpty)).getD defaultTitle = if t = "" then defaultTitle else t := by
  by_cases ht : t = ""
  · subst ht
    rfl
  · have hne : (!t.isEmpty) = true := by simpa using ht
    rw [Option.filter_some, if_pos hne, if_neg ht]
    rfl

/-- The notification of the parts shows what the notification object says. -/
theorem partwise_eq : partwise ms = showing (notice ms) (carried? ms) := by
  unfold partwise showing
  congr 1
  cases (notice ms).title with
  | none => rfl
  | some t => exact (title_of_text t).symm

/-- Unless the notification is an array, what it says is what is read. -/
theorem notice_eq_stated (h : ∀ row, Value.member ms "notification" ≠ .arr row) :
    notice ms = Wording.stated (Value.member ms "notification") := by
  unfold notice
  cases hn : Value.member ms "notification" with
  | arr row => exact absurd hn (h row)
  | _ => rfl

/-- An array says nothing. -/
theorem notice_of_arr {row : List Value} (h : Value.member ms "notification" = .arr row) :
    notice ms = {} := by
  unfold notice
  rw [h]

end Banner

/-- A text with which a notification looks as it does without any. -/
def Wording.IsUnseen (w : Wording) : Prop :=
  (∀ t ∈ w.title, t = "" ∨ t = Banner.defaultTitle) ∧ ∀ b ∈ w.body, b = ""

namespace Banner

variable {ms : List (String × Value)}

/-- A notification looks as it does without a text exactly if nothing is seen of the text. -/
theorem showing_eq_iff {w : Wording} {data data' : Option Value} :
    showing w data = showing {} data' ↔ w.IsUnseen ∧ data = data' := by
  have htitle : (w.title.filter (!·.isEmpty)).getD defaultTitle = defaultTitle ↔
      ∀ t ∈ w.title, t = "" ∨ t = defaultTitle := by
    cases w.title with
    | none => simp
    | some t =>
      rw [title_of_text]
      by_cases ht : t = "" <;> simp [ht]
  have hbody : w.body.getD "" = "" ↔ ∀ b ∈ w.body, b = "" := by
    cases w.body <;> simp
  unfold Wording.IsUnseen
  rw [← htitle, ← hbody, and_assoc]
  exact iff_of_eq (Banner.mk.injEq ..)

/-- **The parts of a message stand for themselves exactly if its notification does not spoil them.** A message
is an object. It is shown part by part if and only if its notification is missing or null, or an object
whose title and body are missing, null or texts, or an array that is read as a text of which nothing is
seen; or if nothing of its parts is seen anyway. A notification that can be read is shown with what it
says, and the message with what it carries. With any other notification nothing of the message is shown,
neither of its texts nor what it carries. -/
theorem parts_stand_alone_iff (ms : List (String × Value)) :
    (ofPayload (.obj ms) = partwise ms ↔
      (Wording.readable (Value.member ms "notification") = true ∧
        ∀ row, Value.member ms "notification" = .arr row → (Wording.stated (.arr row)).IsUnseen) ∨
      (Wording.readable (Value.member ms "notification") = false ∧
        (notice ms).IsUnseen ∧ carried? ms = none)) ∧
    (Wording.readable (Value.member ms "notification") = true →
      ofPayload (.obj ms) = showing (Wording.stated (Value.member ms "notification")) (carried? ms)) ∧
    (Wording.readable (Value.member ms "notification") = false → ofPayload (.obj ms) = blank) := by
  refine ⟨?_, ofPayload_of_readable, ofPayload_of_not_readable⟩
  rw [partwise_eq]
  cases hread : Wording.readable (Value.member ms "notification") with
  | false =>
    rw [ofPayload_of_not_readable hread, eq_comm, show blank = showing {} none from rfl, showing_eq_iff]
    simp
  | true =>
    rw [ofPayload_of_readable hread]
    by_cases harr : ∃ row, Value.member ms "notification" = .arr row
    · -- an array says nothing as an object, so all that is read from it makes a difference
      obtain ⟨row, hrow⟩ := harr
      rw [notice_of_arr hrow, hrow, showing_eq_iff]
      simp
    · have hother : ∀ row, Value.member ms "notification" ≠ .arr row := not_exists.mp harr
      rw [notice_eq_stated hother]
      simp [hother]

/-- A message with an empty title, a body that comes twice and a member that does not matter. -/
def untitled : List (String × Value) :=
  [("notification", .obj [("title", .str ""), ("body", .int 5), ("sound", .bool true), ("body", .str "b")]),
    ("data", .obj [("beachId", .str "1")])]

/-- A message with a number for its title. -/
def mistitled : List (String × Value) :=
  [("notification", .obj [("title", .int 5), ("body", .str "b")]), ("data", .obj [("beachId", .str "1")])]

/-- The first is shown part by part, and of the second nothing is shown. -/
theorem parts_stand_alone_iff_untitled :
    Wording.readable (Value.member untitled "notification") = true ∧
    (∀ row, Value.member untitled "notification" ≠ .arr row) ∧
    ofPayload (.obj untitled) = ⟨defaultTitle, "b", some (.obj [("beachId", .str "1")])⟩ ∧
    Wording.readable (Value.member mistitled "notification") = false ∧
    ofPayload (.obj mistitled) = ⟨defaultTitle, "", none⟩ := by
  have hread : Wording.readable (Value.member untitled "notification") = true := by decide
  have hother : ∀ row, Value.member untitled "notification" ≠ .arr row := nofun
  have hspoiled : Wording.readable (Value.member mistitled "notification") = false := by decide
  have hshown := (parts_stand_alone_iff untitled).1.mpr (.inl ⟨hread, fun row h => absurd h (hother row)⟩)
  exact ⟨hread, hother, hshown.trans rfl, hspoiled, (parts_stand_alone_iff mistitled).2.2 hspoiled⟩

/-- **A title of another type hides the body and what the message carries, and a row of two texts is shown
although it is no object.** -/
theorem title_spoils_message :
    (ofPayload (.obj mistitled)).body = "" ∧ (partwise mistitled).body = "b" ∧
    (ofPayload (.obj mistitled)).data = none ∧
    (partwise mistitled).data = some (.obj [("beachId", .str "1")]) ∧
    (ofPayload (.obj [("notification", .arr [.str "t", .str "b"])])).title = "t" ∧
    (partwise [("notification", .arr [.str "t", .str "b"])]).title = defaultTitle :=
  ⟨rfl, rfl, rfl, rfl, rfl, rfl⟩

end Banner

end Shoreline.Push
