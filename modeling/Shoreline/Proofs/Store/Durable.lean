import Mathlib.Logic.Function.Basic
import Shoreline.Proofs.Json.Pretty
import Shoreline.Proofs.Store.Drive

/-!
# `Shoreline.Proofs.Store.Durable` — a store in a file is a map that lasts

A store in a file answers like a plain map, to which the changes that succeeded were made, one after the
other, from what the file held in the beginning. A change that fails leaves entries and file alone, so
that it is as if it had not been tried; one that succeeds leaves a file that is read back into just the
entries in memory. Between two acts the entries in memory are therefore the ones that opening the file
would give, and opening it again at any time changes no answer. That is the invariant, `Drive.Mirrors`;
it holds as long as nothing else touches the file.

## Contents
- `FileText.ofText`; `Store.fromText?_fileText`: the file is read back.
- `FileAct` on a drive, on the store that is seen and on a plain map; runs of acts.
- `FileAct.step_enacts`, `Drive.store_run`: the drive shows the store; `FileAct.step_error`.
- `Drive.Holds`, `Drive.Mirrors`: what a write leaves (`holds_write`, `mirrors_write`, `entries_write`),
  an act (`mirrors_step`, `get?_step`), and a run (`mirrors_run`, `get?_run`).
- `Drive.file_store_lasts`.
-/

namespace Shoreline

open Text Json

/-- What is found of a file that can be read, if it is there. -/
def FileText.ofText : Option String → FileText
  | none => .absent
  | some text => .found text

/-- **The entries of a store are read back from its file.** -/
theorem Store.fromText?_fileText (entries : SortedMap String) :
    (Decoder.map Decoder.text).fromText? (fileText entries) = some entries :=
  Decoder.fromText?_pretty_texts entries

/-! ## Acts -/

/-- What may happen to a store in a file. -/
inductive FileAct
  | read (key : String)
  | set (key text : String) (w : Writing)
  | remove (key : String) (w : Writing)
  /-- The file is opened again. -/
  | reopen
  /-- Something else replaces the file, or deletes it. -/
  | replaced (file : Option String)
deriving DecidableEq, Repr

namespace FileAct

/-- Whether the file is left to the store. -/
def isOwn : FileAct → Bool
  | .replaced _ => false
  | _ => true

/-- What an act does on a drive, step by step; the answer is the text found. -/
def step : FileAct → Drive.Step (Option String)
  | .read key => return (← get).entries.get? key
  | .set key text w => (fun _ => none) <$> Drive.put w key text
  | .remove key w => (fun _ => none) <$> Drive.drop w key
  | .reopen => (fun _ => none) <$> modify fun d => { d with entries := Drive.contents d.file }
  | .replaced file => (fun _ => none) <$> modify fun d => { d with file := file }

/-- A change to a store, tried while writes fail for a reason or not at all. -/
def tried (fault : Option String) (change : Store → Except StoreFault Store) (s : Store) :
    Except StoreFault (Option String) × Store :=
  let during : Store := { s with fault := fault }
  ((change during).map fun _ => none, { during.attempt (change during) with fault := s.fault })

/-- What an act does to the store that is seen. -/
def change : FileAct → Store → Except StoreFault (Option String) × Store
  | .read key, s => (.ok (s.get? key), s)
  | .set key text w, s => tried w.fault (·.set key text) s
  | .remove key w, s => tried w.fault (·.remove key) s
  | .reopen, s => (.ok none, s.reopen)
  | .replaced file, s => (.ok none, s.withFile file)

/-- What an act does to a plain map. -/
def onMap : FileAct → (String → Option String) → String → Option String
  | .set key text _, m => Function.update m key (some text)
  | .remove key _, m => Function.update m key none
  | _, m => m

/-- The store after some acts. -/
def changes (acts : List FileAct) (s : Store) : Store := acts.foldl (fun s a => (a.change s).2) s

/-- The plain map after some acts. -/
def onMaps (acts : List FileAct) (m : String → Option String) : String → Option String :=
  acts.foldl (fun m a => a.onMap m) m

end FileAct

namespace Drive

/-- The drive after some acts. -/
def run (d : Drive) (acts : List FileAct) : Drive := acts.foldl (fun d a => (a.step.on d).2) d

/-- The acts of a run that succeed. -/
def succeeded (d : Drive) : List FileAct → List FileAct
  | [] => []
  | a :: acts =>
    if (a.step.on d).1.isOk then a :: succeeded (a.step.on d).2 acts
    else succeeded (a.step.on d).2 acts

/-- The plain map that a file holds: one without keys if the file is not there or is not an object of
texts. -/
def plain (file : Option String) (key : String) : Option String :=
  (file.bind (Decoder.map Decoder.text).fromText?).bind (·.get? key)

/-- The file is there, and is read back into the entries in memory. -/
def Holds (d : Drive) : Prop :=
  ∃ text, d.file = some text ∧ (Decoder.map Decoder.text).fromText? text = some d.entries

/-- The entries in memory are the ones that the file would give. -/
def Mirrors (d : Drive) : Prop := d.entries = contents d.file

theorem get?_contents (file : Option String) : (contents file).get? = plain file := by
  funext key
  cases file with
  | none => rfl
  | some text =>
    show (Store.entriesOf text).get? key = _
    unfold plain Store.entriesOf
    rw [Option.bind_some]
    cases (Decoder.map Decoder.text).fromText? text with
    | none => rfl
    | some entries => rfl

theorem mirrors_opened (file : Option String) : (opened file).Mirrors := rfl

theorem Holds.mirrors {d : Drive} (h : d.Holds) : d.Mirrors := by
  obtain ⟨text, hfile, hread⟩ := h
  unfold Mirrors contents Store.entriesOf
  rw [hfile, Option.map_some, hread]
  rfl

/-- A store that is opened shows what the file holds. -/
theorem open_file (d : Drive) :
    Store.open (FileText.ofText d.file) = .ok ((opened d.file).store none) := by
  cases d.file with
  | none => rfl
  | some text => rfl

end Drive

/-! ## The store that is seen -/

/-- A step that enacts a change is that change tried, as it is seen. -/
theorem Drive.Enacts.tried {fault : Option String} {step : Step Unit}
    {change : Store → Except StoreFault Store} (h : Enacts fault step change) (d : Drive) :
    (((step.on d).1.map fun _ => none), (step.on d).2.store none) =
      FileAct.tried fault change (d.store none) := by
  refine Prod.ext ?_ ?_
  · show (step.on d).1.map (fun _ => none) = (change (d.store fault)).map fun _ => none
    rw [h.result d]
    cases change (d.store fault) with
    | ok t => rfl
    | error fault => rfl
  · show (step.on d).2.store none =
      { (d.store fault).attempt (change (d.store fault)) with fault := none }
    rw [← h.store d]
    rfl

namespace FileAct

/-- **An act on a drive is that act on the store that is seen.** -/
theorem step_enacts (a : FileAct) (d : Drive) :
    ((a.step.on d).1, (a.step.on d).2.store none) = a.change (d.store none) := by
  cases a with
  | read key => rfl
  | set key text w =>
    rw [step, Drive.Step.on_map]
    exact (Drive.put_enacts w key text).tried d
  | remove key w =>
    rw [step, Drive.Step.on_map]
    exact (Drive.drop_enacts w key).tried d
  | reopen => rfl
  | replaced file => rfl

/-- A change that fails leaves the store as it was. -/
theorem tried_error {fault : Option String} {change : Store → Except StoreFault Store} {s : Store}
    {why : StoreFault} (h : (tried fault change s).1 = .error why) : (tried fault change s).2 = s := by
  unfold tried at h ⊢
  dsimp only at h ⊢
  cases hc : change { s with fault := fault } with
  | ok t =>
    rw [hc] at h
    cases h
  | error why => rfl

/-- **An act that fails leaves entries and file as they were.** -/
theorem step_error {a : FileAct} {d : Drive} {why : StoreFault} (h : (a.step.on d).1 = .error why) :
    (a.step.on d).2.store none = d.store none := by
  obtain ⟨hresult, hstore⟩ := Prod.mk.inj (a.step_enacts d)
  rw [hresult] at h
  rw [hstore]
  cases a with
  | read key => cases h
  | set key text w => exact tried_error h
  | remove key w => exact tried_error h
  | reopen => cases h
  | replaced file => cases h

end FileAct

namespace Drive

/-- **A run on a drive is that run on the store that is seen.** -/
theorem store_run (d : Drive) (acts : List FileAct) :
    (d.run acts).store none = FileAct.changes acts (d.store none) := by
  induction acts generalizing d with
  | nil => rfl
  | cons a acts ih =>
    have hact : (a.step.on d).2.store none = (a.change (d.store none)).2 :=
      (Prod.mk.inj (a.step_enacts d)).2
    show ((a.step.on d).2.run acts).store none = FileAct.changes acts (a.change (d.store none)).2
    rw [ih, hact]

/-! ## What a change leaves -/

theorem read_on (key : String) (d : Drive) :
    (FileAct.read key).step.on d = (.ok (d.entries.get? key), d) := rfl

theorem set_on (key text : String) (w : Writing) (d : Drive) :
    (FileAct.set key text w).step.on d =
      (((write w (d.entries.insert key text)).on d).1.map fun _ => none,
        ((write w (d.entries.insert key text)).on d).2) := by
  rw [FileAct.step, Step.on_map, put_on]

theorem remove_on (key : String) (w : Writing) (d : Drive) :
    (FileAct.remove key w).step.on d =
      if d.entries.contains key then
        (((write w (d.entries.erase key)).on d).1.map fun _ => none,
          ((write w (d.entries.erase key)).on d).2)
      else (.ok none, d) := by
  rw [FileAct.step, Step.on_map, drop_on]
  split
  · rfl
  · rfl

/-- What is made of an answer is one exactly if that was. -/
theorem isOk_map {α β : Type} (f : α → β) (result : Except StoreFault α) :
    (result.map f).isOk = result.isOk := by
  cases result with
  | ok a => rfl
  | error fault => rfl

/-- A write succeeds unless something fails. -/
theorem isOk_write (w : Writing) (entries : SortedMap String) (d : Drive) :
    ((write w entries).on d).1.isOk = w.fault.isNone := by
  rcases write_cases w entries d with ⟨hw, hwrite⟩ | ⟨reason, left, hw, hwrite⟩
  · rw [hwrite, hw]
    rfl
  · rw [hwrite, hw]
    rfl

/-- A write that succeeds leaves a file that holds the entries. -/
theorem holds_write {w : Writing} {entries : SortedMap String} {d : Drive}
    (h : ((write w entries).on d).1.isOk) : ((write w entries).on d).2.Holds := by
  rcases write_cases w entries d with ⟨_, hwrite⟩ | ⟨reason, left, _, hwrite⟩
  · rw [hwrite]
    exact ⟨_, rfl, Store.fromText?_fileText entries⟩
  · rw [hwrite] at h
    cases h

/-- A write keeps memory and file in step, whether it succeeds or fails. -/
theorem mirrors_write {d : Drive} (h : d.Mirrors) (w : Writing) (entries : SortedMap String) :
    ((write w entries).on d).2.Mirrors := by
  rcases write_cases w entries d with ⟨_, hwrite⟩ | ⟨reason, left, _, hwrite⟩
  · have hholds : ((write w entries).on d).2.Holds := holds_write (by rw [hwrite]; rfl)
    exact hholds.mirrors
  · rw [hwrite]
    exact h

/-- A write leaves the new entries in memory if it succeeds. -/
theorem entries_write (w : Writing) (entries : SortedMap String) (d : Drive) :
    ((write w entries).on d).2.entries =
      if ((write w entries).on d).1.isOk then entries else d.entries := by
  rcases write_cases w entries d with ⟨_, hwrite⟩ | ⟨reason, left, _, hwrite⟩
  · rw [hwrite]
    rfl
  · rw [hwrite]
    rfl

/-- **An act of the store keeps memory and file in step.** -/
theorem mirrors_step {d : Drive} (h : d.Mirrors) {a : FileAct} (own : a.isOwn) :
    (a.step.on d).2.Mirrors := by
  cases a with
  | read key => exact h
  | set key text w =>
    rw [set_on]
    exact mirrors_write h w (d.entries.insert key text)
  | remove key w =>
    rw [remove_on]
    split
    · exact mirrors_write h w (d.entries.erase key)
    · exact h
  | reopen => rfl
  | replaced file => cases own

/-! ## The plain map -/

/-- **An act that succeeds does to the answers what it does to a plain map; one that fails leaves them.** -/
theorem get?_step {d : Drive} (h : d.Mirrors) {a : FileAct} (own : a.isOwn) :
    (a.step.on d).2.entries.get? =
      if (a.step.on d).1.isOk then a.onMap d.entries.get? else d.entries.get? := by
  cases a with
  | read key => rfl
  | set key text w =>
    have hinsert : (d.entries.insert key text).get? =
        Function.update d.entries.get? key (some text) := by
      funext k
      rw [SortedMap.get?_insert, Function.update_apply]
    rw [set_on, isOk_map, entries_write, apply_ite SortedMap.get?, hinsert]
    rfl
  | remove key w =>
    have herase : (d.entries.erase key).get? = Function.update d.entries.get? key none := by
      funext k
      rw [SortedMap.get?_erase, Function.update_apply]
    rw [remove_on]
    split
    · rw [isOk_map, entries_write, apply_ite SortedMap.get?, herase]
      rfl
    · next habsent =>
      -- there is nothing to drop on a plain map either
      have hnone : none = d.entries.get? key := by
        rw [SortedMap.contains, Option.not_isSome_iff_eq_none] at habsent
        exact habsent.symm
      show d.entries.get? = Function.update d.entries.get? key none
      rw [hnone, Function.update_eq_self]
  | reopen => exact congrArg SortedMap.get? h.symm
  | replaced file => cases own

/-- **A run keeps memory and file in step**, as long as the file is left to the store. -/
theorem mirrors_run {d : Drive} (h : d.Mirrors) {acts : List FileAct} (own : ∀ a ∈ acts, a.isOwn) :
    (d.run acts).Mirrors := by
  induction acts generalizing d with
  | nil => exact h
  | cons a acts ih =>
    have hstep : (a.step.on d).2.Mirrors := mirrors_step h (own a List.mem_cons_self)
    exact ih hstep fun b hb => own b (List.mem_cons_of_mem a hb)

/-- **A run gives the answers of a plain map to which its successful acts were applied.** -/
theorem get?_run {d : Drive} (h : d.Mirrors) {acts : List FileAct} (own : ∀ a ∈ acts, a.isOwn) :
    (d.run acts).entries.get? = FileAct.onMaps (d.succeeded acts) d.entries.get? := by
  induction acts generalizing d with
  | nil => rfl
  | cons a acts ih =>
    have hown : a.isOwn := own a List.mem_cons_self
    have hrest := ih (mirrors_step h hown) fun b hb => own b (List.mem_cons_of_mem a hb)
    show ((a.step.on d).2.run acts).entries.get? = _
    rw [hrest, get?_step h hown, succeeded]
    split
    · rfl
    · rfl

/-! ## The whole store -/

/-- A store in a file is a map that lasts, from any text in the file and through any run of acts, of which
any write may fail. -/
theorem file_store_lasts (file : Option String) (acts : List FileAct) :
    let d := (opened file).run acts
    -- the drive shows the store that is opened and acted on
    (∃ s, Store.open (.ofText file) = .ok s ∧ d.store none = FileAct.changes acts s ∧
      ∀ a : FileAct, (a.step.on d).1 = (a.change (FileAct.changes acts s)).1) ∧
    -- as long as nothing else touches the file, it answers like a plain map with the changes that
    -- succeeded, and so does the store that is opened from the file
    ((∀ a ∈ acts, a.isOwn) → ∀ key,
      ((FileAct.read key).step.on d).1 =
        .ok (FileAct.onMaps ((opened file).succeeded acts) (plain file) key) ∧
      ∃ t, Store.open (.ofText d.file) = .ok t ∧
        ((FileAct.read key).step.on d).1 = .ok (t.get? key)) ∧
    -- what fails leaves entries and file alone
    (∀ (a : FileAct) (why : StoreFault), (a.step.on d).1 = .error why →
      (a.step.on d).2.entries = d.entries ∧ (a.step.on d).2.file = d.file) ∧
    -- what succeeds leaves the entries in the file
    (∀ key text w, ((FileAct.set key text w).step.on d).1.isOk →
      ((FileAct.set key text w).step.on d).2.Holds) ∧
    (∀ key w, d.entries.contains key → ((FileAct.remove key w).step.on d).1.isOk →
      ((FileAct.remove key w).step.on d).2.Holds) := by
  intro d
  refine ⟨?_, ?_, ?_, ?_, ?_⟩
  · refine ⟨(opened file).store none, open_file (opened file), store_run (opened file) acts, ?_⟩
    intro a
    rw [← store_run]
    exact (Prod.mk.inj (a.step_enacts d)).1
  · intro own key
    constructor
    · rw [read_on, get?_run (mirrors_opened file) own, ← get?_contents]
      rfl
    · refine ⟨(opened d.file).store none, open_file d, ?_⟩
      have hmirrors : d.entries = contents d.file := mirrors_run (mirrors_opened file) own
      rw [read_on, hmirrors]
      rfl
  · intro a why h
    have hstore : (a.step.on d).2.store none = d.store none := FileAct.step_error h
    exact ⟨congrArg Store.entries hstore, congrArg Store.file? hstore⟩
  · intro key text w h
    rw [set_on, isOk_map] at h
    rw [set_on]
    exact holds_write h
  · intro key w present h
    rw [remove_on, if_pos present, isOk_map] at h
    rw [remove_on, if_pos present]
    exact holds_write h

/-- A file that makes no sense is replaced, a write breaks off, and the file is opened again: what was put
there first is found. A removal that fails leaves it there, a further text and a removal are kept. -/
theorem file_store_lasts_torn :
    let acts : List FileAct :=
      [.set "a" "1" .done, .set "a" "2" (.brokenOff "full" (some "\x7b")), .reopen]
    let d := (opened (some "\x7boops")).run acts
    (∀ a ∈ acts, a.isOwn) ∧
    ((FileAct.read "a").step.on d).1 = .ok (some "1") ∧
    (∃ t, Store.open (.ofText d.file) = .ok t ∧ t.get? "a" = some "1") ∧
    ((FileAct.remove "a" (.notMoved "busy")).step.on d).1 = .error (.write "busy") ∧
    ((FileAct.remove "a" (.notMoved "busy")).step.on d).2.entries = d.entries ∧
    ((FileAct.set "b" "3" .done).step.on d).2.Holds ∧
    ((FileAct.remove "a" .done).step.on d).2.Holds := by
  intro acts d
  have own : ∀ a ∈ acts, a.isOwn := by decide
  have hsucceeded : (opened (some "\x7boops")).succeeded acts = [.set "a" "1" .done, .reopen] := by
    simp only [acts, succeeded, set_on, isOk_map, isOk_write]
    rfl
  have hd : (opened (some "\x7boops")).run acts = d := rfl
  obtain ⟨-, hlasts, herror, hset, hremove⟩ := file_store_lasts (some "\x7boops") acts
  rw [hd] at hlasts herror hset hremove
  have hread : ((FileAct.read "a").step.on d).1 = .ok (some "1") := by
    rw [(hlasts own "a").1, hsucceeded]
    rfl
  obtain ⟨t, hopen, hsame⟩ := (hlasts own "a").2
  have hpresent : d.entries.contains "a" := by
    rw [read_on] at hread
    rw [SortedMap.contains, Except.ok.inj hread]
    rfl
  have hfail : ((FileAct.remove "a" (.notMoved "busy")).step.on d).1 = .error (.write "busy") := by
    rw [remove_on, if_pos hpresent]
    rcases write_cases (.notMoved "busy") (d.entries.erase "a") d with ⟨hw, -⟩ | ⟨_, _, hw, hwrite⟩
    · cases hw
    · cases hw
      rw [hwrite]
      rfl
  have hput : ((FileAct.set "b" "3" .done).step.on d).1.isOk := by
    rw [set_on, isOk_map, isOk_write]
    rfl
  have hdrop : ((FileAct.remove "a" .done).step.on d).1.isOk := by
    rw [remove_on, if_pos hpresent, isOk_map, isOk_write]
    rfl
  have hsame : t.get? "a" = some "1" := Except.ok.inj (hsame.symm.trans hread)
  obtain ⟨hkept, -⟩ := herror (.remove "a" (.notMoved "busy")) (.write "busy") hfail
  exact ⟨own, hread, ⟨t, hopen, hsame⟩, hfail, hkept, hset "b" "3" .done hput,
    hremove "a" .done hpresent hdrop⟩

end Drive

end Shoreline
