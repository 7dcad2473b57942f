import Shoreline.Failure
import Shoreline.Proofs.Json.Slots

/-!
# `Shoreline.Proofs.Http.Refusal` — what a refusal says to the user

A refusal whose body is a JSON object may hold up to three texts for the user, of which detail goes before
title and title before message. Two things come between such a text and the user. The body is read as one
record, so a single member that has another type than it should, be it one that has nothing to do with
the message, leaves nothing of the body. And the first text that is there is taken before it is asked
whether it is empty, so an empty text hides the ones behind it. In both cases the user is told the status.

## Contents
- `RefusalBody.textAt?`, `stated?`, `spoken?`: the texts of a body, and the first that is not empty.
- `HoldsText`, `HoldsMap`, `WellTyped`; `decoder_of_wellTyped`, `wellTyped_of_decoder`.
- `Refusal.spoken_text_is_message_iff`, with a body that has null for its detail, and
  `Refusal.server_text_lost`.
-/

namespace Shoreline

open Text Json

namespace RefusalBody

variable {ms : List (Option String × Document)} {name : String} {r : Row}

/-! ## Texts for the user -/

/-- The members that hold a text for the user, the preferred one first. -/
def preference : List String := ["detail", "title", "message"]

/-- The text of the member with a name, if it is a text; of several members with the name the last counts. -/
def textAt? (ms : List (Option String × Document)) (name : String) : Option String :=
  match (ms.filter fun m => m.1 == some name).getLast? with
  | some (_, .str s) => s
  | _ => none

/-- The first text that is there. -/
def stated? (ms : List (Option String × Document)) : Option String := preference.findSome? (textAt? ms)

/-- The first text that is there and is not empty. -/
def spoken? (ms : List (Option String × Document)) : Option String :=
  preference.findSome? fun name => (textAt? ms name).filter (!·.isEmpty)

/-- The text in a slot. -/
def slotText? : FieldSlot → Option String
  | .given (.str s) => s
  | _ => none

/-- A member that is not repeated has the text in its slot. -/
theorem textAt?_of_findMember {slot : FieldSlot} (h : findMember name ms = some slot) :
    textAt? ms name = slotText? slot := by
  unfold findMember at h
  unfold textAt?
  split at h
  · next hnone =>
    obtain rfl := Option.some.inj h
    rw [hnone]
    rfl
  · next m hone =>
    obtain rfl := Option.some.inj h
    rw [hone]
    obtain ⟨k, d⟩ := m
    cases d <;> rfl
  · cases h

/-! ## Members and their types -/

/-- A member is missing or null or holds a text, and is not repeated. -/
def HoldsText (ms : List (Option String × Document)) (name : String) : Prop :=
  findMember name ms = some .missing ∨ findMember name ms = some (.given .null) ∨
    ∃ s, findMember name ms = some (.given (.str (some s)))

/-- A member is missing or null or holds an object of which everything can be kept, and is not repeated. -/
def HoldsMap (room : Nat) (ms : List (Option String × Document)) (name : String) : Prop :=
  findMember name ms = some .missing ∨ findMember name ms = some (.given .null) ∨
    ∃ inner v, findMember name ms = some (.given (.obj inner)) ∧ (Document.obj inner).keep room = some v

/-- Every name in an object can be read, and each of the members that matter has its type. -/
structure WellTyped (room : Nat) (ms : List (Option String × Document)) : Prop where
  named : ∀ m ∈ ms, m.1 ≠ none
  texts : ∀ name ∈ ["title", "detail", "message", "code"], HoldsText ms name
  maps : ∀ name ∈ ["errors", "details"], HoldsMap room ms name

/-- A text that may be missing is read exactly if the member holds one or is null or missing. -/
theorem optional_text_iff (hslot : findMember name ms = some (r.slot name)) {o : Option String} :
    r.optional name Decoder.text = some o ↔ HoldsText ms name ∧ textAt? ms name = o := by
  rw [textAt?_of_findMember hslot]
  unfold HoldsText Row.optional
  rw [hslot]
  cases hs : r.slot name with
  | missing => simp [slotText?, eq_comm]
  | cut => simp
  | given d =>
    cases d with
    | null => simp [Decoder.nullable, slotText?, eq_comm]
    | str s => cases s <;> simp [Decoder.nullable, Decoder.text, slotText?]
    | _ => simp [Decoder.nullable, Decoder.text]

/-- The members of an object can be kept exactly if each has a name that can be read and a value that can
be kept. -/
theorem exists_keepMembers_iff {room : Nat} {inner : List (Option String × Document)}
    {placed : List (String × Value)} :
    (∃ l, Document.keepMembers room placed inner = some l) ↔
      ∀ m ∈ inner, ∃ k v, m.1 = some k ∧ m.2.keep room = some v := by
  induction inner generalizing placed with
  | nil => exact iff_of_true ⟨placed, rfl⟩ nofun
  | cons m inner ih =>
    rw [List.forall_mem_cons]
    obtain ⟨name, d⟩ := m
    cases name with
    | none => exact iff_of_false nofun fun h => by simpa using h.1
    | some k =>
      rw [Document.keepMembers]
      cases hkeep : d.keep room with
      | none => exact iff_of_false nofun fun h => by simpa [hkeep] using h.1
      | some v => exact ih.trans ⟨fun hrest => ⟨⟨k, v, rfl, rfl⟩, hrest⟩, And.right⟩

/-- A map of anything is read from an object exactly if all of it can be kept. -/
theorem exists_map_value_iff {room : Nat} {inner : List (Option String × Document)} :
    (∃ m, Decoder.map Decoder.value room (.obj inner) = some m) ↔
      ∃ v, (Document.obj inner).keep room = some v := by
  cases room with
  | zero => exact iff_of_false nofun nofun
  | succ room =>
    have hmembers : (∃ l, Document.keepMembers room [] inner = some l) ↔
        ∃ l, (inner.mapM (m := Option) fun m =>
          m.1.bind fun k => (Decoder.value room m.2).map fun v => (k, v)) = some l := by
      rw [exists_keepMembers_iff, exists_mapM_iff]
      refine forall₂_congr fun m _ => ⟨?_, ?_⟩
      · rintro ⟨k, v, hk, hv⟩
        exact ⟨(k, v), by rw [hk, Option.bind_some, show Decoder.value room m.2 = some v from hv]; rfl⟩
      · rintro ⟨e, he⟩
        obtain ⟨k, hk, he⟩ := Option.bind_eq_some_iff.mp he
        obtain ⟨v, hv, -⟩ := Option.map_eq_some_iff.mp he
        exact ⟨k, v, hk, hv⟩
    constructor
    · rintro ⟨m, hmap⟩
      obtain ⟨entries, hentries, -⟩ := Option.map_eq_some_iff.mp hmap
      obtain ⟨l, hl⟩ := hmembers.mpr ⟨entries, hentries⟩
      exact ⟨.obj l, by rw [Document.keep, hl]; rfl⟩
    · rintro ⟨v, hkeep⟩
      rw [Document.keep] at hkeep
      obtain ⟨l, hl, -⟩ := Option.map_eq_some_iff.mp hkeep
      obtain ⟨entries, hentries⟩ := hmembers.mp ⟨l, hl⟩
      exact ⟨SortedMap.ofList entries, Option.map_eq_some_iff.mpr ⟨entries, hentries, rfl⟩⟩

/-- A map that may be missing is read exactly if the member holds one or is null or missing. -/
theorem optional_map_iff (hslot : findMember name ms = some (r.slot name)) :
    (∃ o, r.optional name (Decoder.map Decoder.value) = some o) ↔ HoldsMap r.room ms name := by
  unfold HoldsMap Row.optional
  rw [hslot]
  cases hs : r.slot name with
  | missing => simp
  | cut => simp
  | given d =>
    cases d with
    | null => simp [Decoder.nullable]
    | obj inner =>
      have hmap : (∃ m, Decoder.map Decoder.value r.room (.obj inner) = some m) ↔
          ∃ v, (Document.obj inner).keep r.room = some v := exists_map_value_iff
      simpa [Decoder.nullable] using hmap
    | _ => cases hroom : r.room <;> simp [Decoder.nullable, Decoder.map]

/-! ## Reading the body -/

/-- **A body that was read is well typed**, and its texts are those at their names. -/
theorem wellTyped_of_decoder {room : Nat} {b : RefusalBody} (h : decoder (room + 1) (.obj ms) = some b) :
    WellTyped room ms ∧ b.title = textAt? ms "title" ∧ b.detail = textAt? ms "detail" ∧
      b.message = textAt? ms "message" := by
  unfold decoder at h
  obtain ⟨r, hrow, h⟩ := Option.bind_eq_some_iff.mp h
  obtain ⟨title, htitle, h⟩ := Option.bind_eq_some_iff.mp h
  obtain ⟨detail, hdetail, h⟩ := Option.bind_eq_some_iff.mp h
  obtain ⟨message, hmessage, h⟩ := Option.bind_eq_some_iff.mp h
  obtain ⟨code, hcode, h⟩ := Option.bind_eq_some_iff.mp h
  obtain ⟨errors, herrors, h⟩ := Option.bind_eq_some_iff.mp h
  obtain ⟨details, hdetails, h⟩ := Option.bind_eq_some_iff.mp h
  obtain rfl := Option.some.inj h
  obtain ⟨named, rfl, hslot⟩ := Row.of_object hrow
  simp only [List.forall_mem_cons] at hslot
  obtain ⟨stitle, sdetail, smessage, scode, serrors, sdetails, -⟩ := hslot
  rw [optional_text_iff stitle] at htitle
  rw [optional_text_iff sdetail] at hdetail
  rw [optional_text_iff smessage] at hmessage
  rw [optional_text_iff scode] at hcode
  refine ⟨⟨named, ?_, ?_⟩, htitle.2.symm, hdetail.2.symm, hmessage.2.symm⟩
  · simp only [List.forall_mem_cons]
    exact ⟨htitle.1, hdetail.1, hmessage.1, hcode.1, nofun⟩
  · simp only [List.forall_mem_cons]
    exact ⟨(optional_map_iff serrors).mp ⟨errors, herrors⟩,
      (optional_map_iff sdetails).mp ⟨details, hdetails⟩, nofun⟩

/-- What holds a text is not repeated. -/
theorem HoldsText.found (h : HoldsText ms name) : ∃ slot, findMember name ms = some slot := by
  rcases h with h | h | ⟨s, h⟩ <;> exact ⟨_, h⟩

/-- Nor is what holds a map. -/
theorem HoldsMap.found {room : Nat} (h : HoldsMap room ms name) :
    ∃ slot, findMember name ms = some slot := by
  rcases h with h | h | ⟨inner, v, h, -⟩ <;> exact ⟨_, h⟩

/-- **A well-typed body can be read.** -/
theorem decoder_of_wellTyped {room : Nat} (h : WellTyped room ms) :
    ∃ b, decoder (room + 1) (.obj ms) = some b := by
  obtain ⟨named, texts, maps⟩ := h
  have hfound : ∀ name ∈ ["title", "detail", "message", "code"] ++ ["errors", "details"],
      ∃ slot, findMember name ms = some slot := by
    intro name hname
    rcases List.mem_append.mp hname with htext | hmap
    · exact (texts name htext).found
    · exact (maps name hmap).found
  obtain ⟨r, hrow, rfl, hslot⟩ := Row.exists_of_found named hfound room
  have htext : ∀ name ∈ ["title", "detail", "message", "code"],
      r.optional name Decoder.text = some (textAt? ms name) := fun name hname =>
    (optional_text_iff (hslot name (List.mem_append_left _ hname))).mpr ⟨texts name hname, rfl⟩
  have hmap : ∀ name ∈ ["errors", "details"],
      ∃ o, r.optional name (Decoder.map Decoder.value) = some o := fun name hname =>
    (optional_map_iff (hslot name (List.mem_append_right _ hname))).mpr (maps name hname)
  simp only [List.forall_mem_cons] at htext hmap
  obtain ⟨htitle, hdetail, hmessage, hcode, -⟩ := htext
  obtain ⟨⟨errors, herrors⟩, ⟨details, hdetails⟩, -⟩ := hmap
  unfold decoder
  rw [show Document.row? ["title", "detail", "message", "code", "errors", "details"] _ _ = some r from hrow]
  simp [htitle, hdetail, hmessage, hcode, herrors, hdetails]

/-! ## The text that is said -/

/-- What a body says is the first text that is there, unless it is empty. -/
theorem said?_eq {b : RefusalBody} (title : b.title = textAt? ms "title")
    (detail : b.detail = textAt? ms "detail") (message : b.message = textAt? ms "message") :
    b.said? = (stated? ms).filter (!·.isEmpty) := by
  have hfirst : (b.detail.or b.title).or b.message = stated? ms := by
    rw [title, detail, message]
    unfold stated? preference
    cases hdetail : textAt? ms "detail" <;> cases htitle : textAt? ms "title" <;>
      cases hmessage : textAt? ms "message" <;> simp [hdetail, htitle, hmessage]
  unfold said?
  rw [hfirst]

/-- The first text that is not empty comes first of all, unless an empty one stands before it. -/
theorem stated?_of_spoken? {m : String} (h : spoken? ms = some m) :
    m.isEmpty = false ∧ (stated? ms = some m ∨ stated? ms = some "") := by
  unfold spoken? at h
  unfold stated?
  generalize preference = names at h ⊢
  induction names with
  | nil => cases h
  | cons name names ih =>
    rw [List.findSome?_cons] at h ⊢
    cases htext : textAt? ms name with
    | none =>
      rw [htext] at h
      exact ih h
    | some t =>
      rw [htext] at h
      by_cases hempty : t.isEmpty = true
      · rw [Option.filter_some, if_neg (by simp [hempty])] at h
        rw [String.isEmpty_iff] at hempty
        exact ⟨(ih h).1, .inr (congrArg some hempty)⟩
      · rw [Option.filter_some, if_pos (by simpa using hempty)] at h
        obtain rfl := Option.some.inj h
        exact ⟨by simpa using hempty, .inl rfl⟩

end RefusalBody

namespace Refusal

open RefusalBody

variable {status : Nat} {contentType body : String} {ms : List (Option String × Document)}

/-- The message of a refusal is what its body says, or else the status. -/
theorem message_ofBody (json : contains contentType "json" = true)
    (object : Document.read? body.toList = some (.obj ms)) :
    (ofBody status contentType body).message =
      ((RefusalBody.decoder maxNesting (.obj ms)).bind said?).getD (statusLine status) := by
  have hread : RefusalBody.decoder.fromText? body = RefusalBody.decoder maxNesting (.obj ms) := by
    unfold Decoder.fromText?
    rw [object]
    rfl
  unfold ofBody
  dsimp only
  rw [if_pos json, hread]
  cases RefusalBody.decoder maxNesting (.obj ms) with
  | none => rfl
  | some b => rfl

/-- **The text that is preferred is the message exactly if nothing else is amiss in the body.** The body of a
refusal is JSON and an object with a text for the user. The first of detail, title and message that is
not empty is the message if and only if every member that matters has its type, none of them is repeated
and every name can be read, and no empty text stands before it — or if it is what is said of the status
anyway. In all other cases the user is told the status and nothing of the body. -/
theorem spoken_text_is_message_iff {m : String} (json : contains contentType "json" = true)
    (object : Document.read? body.toList = some (.obj ms)) (spoken : spoken? ms = some m) :
    ((ofBody status contentType body).message = m ↔
      (WellTyped (maxNesting - 1) ms ∧ stated? ms = some m) ∨ m = statusLine status) ∧
    ((ofBody status contentType body).message = m ∨
      (ofBody status contentType body).message = statusLine status) := by
  rw [message_ofBody json object]
  obtain ⟨hm, hstated⟩ := stated?_of_spoken? spoken
  have hne : m ≠ "" := fun h => by simp [h] at hm
  by_cases hw : WellTyped (maxNesting - 1) ms
  · obtain ⟨b, hb⟩ := decoder_of_wellTyped hw
    obtain ⟨-, title, detail, message⟩ := wellTyped_of_decoder hb
    rw [show RefusalBody.decoder maxNesting (.obj ms) = some b from hb, Option.bind_some,
      said?_eq title detail message]
    rcases hstated with h | h
    · rw [h, Option.filter_some, if_pos (by simpa using hm)]
      exact ⟨iff_of_true rfl (.inl ⟨hw, rfl⟩), .inl rfl⟩
    · rw [h, Option.filter_some, if_neg (by simp)]
      refine ⟨⟨fun heq => .inr heq.symm, ?_⟩, .inr rfl⟩
      rintro (⟨-, hempty⟩ | heq)
      · exact absurd (Option.some.inj hempty).symm hne
      · exact heq.symm
  · have hnone : RefusalBody.decoder maxNesting (.obj ms) = none :=
      Option.eq_none_iff_forall_ne_some.mpr fun b hb => hw (wellTyped_of_decoder hb).1
    rw [hnone]
    refine ⟨⟨fun heq => .inr heq.symm, ?_⟩, .inr rfl⟩
    rintro (⟨hwell, -⟩ | heq)
    · exact absurd hwell hw
    · exact heq.symm

/-- A body in which null stands for the detail, and with members that do not matter. -/
def titled : String :=
  "\x7b\"x\":[1],\"detail\":null,\"title\":\"Taken\",\"errors\":\x7b\"day\":1\x7d,\"message\":\"\"\x7d"

/-- Its title is the message. -/
theorem spoken_text_is_message_iff_titled :
    ∃ ms, contains "application/problem+json" "json" = true ∧
      Document.read? titled.toList = some (.obj ms) ∧ spoken? ms = some "Taken" ∧
      (ofBody 409 "application/problem+json" titled).message = "Taken" := by
  have json : contains "application/problem+json" "json" = true := by decide
  have written : titled.toList = (Value.obj [("x", .arr [.int 1]), ("detail", .null), ("title", .str "Taken"),
      ("errors", .obj [("day", .int 1)]), ("message", .str "")]).write := by
    decide +kernel
  have object : Document.read? titled.toList = some (.obj [(some "x", .arr [.num (some (.int 1))]),
      (some "detail", .null), (some "title", .str (some "Taken")),
      (some "errors", .obj [(some "day", .num (some (.int 1)))]), (some "message", .str (some ""))]) := by
    rw [written]
    exact Document.read?_write
      (by simp [Value.Exact, Value.ExactItems, Value.ExactMembers, Value.int, IsWord])
  refine ⟨_, json, object, by decide, ?_⟩
  refine (spoken_text_is_message_iff json object (by decide)).1.mpr (.inl ⟨⟨?_, ?_, ?_⟩, by decide⟩)
  · decide
  · simp only [List.forall_mem_cons]
    exact ⟨.inr (.inr ⟨_, rfl⟩), .inr (.inl rfl), .inr (.inr ⟨_, rfl⟩), .inl rfl, nofun⟩
  · simp only [List.forall_mem_cons]
    exact ⟨.inr (.inr ⟨_, _, rfl, rfl⟩), .inl rfl, nofun⟩

/-- A body with an empty text before the one that says something. -/
def hushed : String := "\x7b\"detail\":\"\",\"title\":\"Taken\"\x7d"

/-- A body with a number for its code. -/
def numbered : String := "\x7b\"message\":\"Taken\",\"code\":7\x7d"

/-- **An empty detail hides the title, and a code of another type hides everything**, although each of the
bodies has a text for the user that is not empty. -/
theorem server_text_lost :
    contains "application/json" "json" = true ∧
    (∃ ms, Document.read? hushed.toList = some (.obj ms) ∧ spoken? ms = some "Taken" ∧
      (ofBody 409 "application/json" hushed).message = "409 Conflict") ∧
    ∃ ms, Document.read? numbered.toList = some (.obj ms) ∧ spoken? ms = some "Taken" ∧
      (ofBody 409 "application/json" numbered).message = "409 Conflict" := by
  have hushing : hushed.toList = (Value.obj [("detail", .str ""), ("title", .str "Taken")]).write := by
    decide +kernel
  have numbering : numbered.toList = (Value.obj [("message", .str "Taken"), ("code", .int 7)]).write := by
    decide +kernel
  refine ⟨by decide,
    ⟨[(some "detail", .str (some "")), (some "title", .str (some "Taken"))], ?_, ?_, ?_⟩,
    [(some "message", .str (some "Taken")), (some "code", .num (some (.int 7)))], ?_, ?_, ?_⟩
  · rw [hushing]
    exact Document.read?_write (by simp [Value.Exact, Value.ExactMembers])
  · decide
  · decide +kernel
  · rw [numbering]
    exact Document.read?_write (by simp [Value.Exact, Value.ExactMembers, Value.int, IsWord])
  · decide
  · decide +kernel

end Refusal

end Shoreline
