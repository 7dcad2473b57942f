import Shoreline.Proofs.Json.RoundTrip
import Shoreline.Proofs.Text.KeySet

/-!
# `Shoreline.Proofs.Json.Pretty` — a map of texts is read back from its lines

A map of texts is written as an object with one member on each line. The blanks in front of the members
and behind the colons are passed over, and the members are read back one by one: the text of the lines is
taken apart into the same members as the object itself. A map lists each key once and in order, so the
map of its entries is the map again.

## Contents
- `skipBlanks_newline`, `readMembers_newline`; `readDocument_text`, `readMembers_texts`.
- `Document.read?_pretty_texts`, `Decoder.fromText?_pretty_texts`.
-/

namespace Shoreline

open Text

namespace Json

open Value

/-- Texts as the members of an object. -/
def textMembers (es : List (String × String)) : List (String × Value) :=
  es.map fun e => (e.1, .str e.2)

/-! ## Blanks -/

/-- A new line and its indentation are blanks. -/
theorem skipBlanks_newline (level : Nat) (cs : List Char) :
    skipBlanks (newline level ++ cs) = skipBlanks cs := by
  have hblank : ∀ c ∈ newline level, c = '\n' ∨ c = ' ' := by
    intro c hc
    unfold newline at hc
    rcases List.mem_cons.mp hc with rfl | hspace
    · exact .inl rfl
    · exact .inr (List.eq_of_mem_replicate hspace)
  unfold skipBlanks
  refine List.dropWhile_append_of_pos fun c hc => ?_
  rcases hblank c hc with rfl | rfl
  · decide
  · decide

/-- Members may begin on a new line. -/
theorem readMembers_newline (fuel level : Nat) (cs : List Char) :
    readMembers fuel (newline level ++ cs) = readMembers fuel cs := by
  cases fuel with
  | zero => rfl
  | succ fuel => rw [readMembers, readMembers, skipBlanks_newline]

/-- So may the first member of an object. -/
theorem readDocument_newline (fuel level : Nat) (cs : List Char) :
    readDocument (fuel + 1) ('\x7b' :: (newline level ++ cs)) =
      readDocument (fuel + 1) ('\x7b' :: cs) := by
  have hopen : ∀ cs, skipBlanks ('\x7b' :: cs) = '\x7b' :: cs := fun _ => rfl
  rw [readDocument, readDocument, hopen, hopen]
  simp only [skipBlanks_newline]

/-! ## Reading -/

/-- A text with a blank in front of it is read. -/
theorem readDocument_text (fuel : Nat) (s : String) (rest : List Char) :
    readDocument (fuel + 1) (' ' :: (quote s ++ rest)) = some (.str (some s), rest) := by
  have hblank : skipBlanks (' ' :: (quote s ++ rest)) =
      '"' :: (s.toList.flatMap escapeChar ++ '"' :: rest) := by
    rw [quote, List.append_assoc]
    rfl
  rw [readDocument, hblank]
  simp only [readString_quote]
  rfl

/-- **Texts are read back line by line**, with the brace behind them. -/
theorem readMembers_texts (e : String × String) (es : List (String × String)) {fuel : Nat}
    (h : es.length + 2 ≤ fuel) (rest : List Char) :
    readMembers fuel (quote e.1 ++ ':' :: ' ' :: (quote e.2 ++
      (writePrettyMembers 1 (textMembers es) ++ (newline 0 ++ '\x7d' :: rest)))) =
      some (takenMembers (textMembers (e :: es)), rest) := by
  induction es generalizing e fuel with
  | nil =>
    obtain ⟨fuel, rfl⟩ : ∃ n, fuel = n + 2 := ⟨fuel - 2, by simp at h; omega⟩
    rw [readMembers_name, readDocument_text]
    rfl
  | cons f es ih =>
    rw [List.length_cons] at h
    obtain ⟨fuel, rfl⟩ : ∃ n, fuel = n + 2 := ⟨fuel - 2, by omega⟩
    have hlines : writePrettyMembers 1 (textMembers (f :: es)) ++ (newline 0 ++ '\x7d' :: rest) =
        ',' :: (newline 1 ++ (quote f.1 ++ ':' :: ' ' :: (quote f.2 ++
          (writePrettyMembers 1 (textMembers es) ++ (newline 0 ++ '\x7d' :: rest))))) := by
      rw [textMembers, List.map_cons, writePrettyMembers, writePretty]
      simp [textMembers]
    rw [readMembers_name, readDocument_text, hlines]
    show (readMembers (fuel + 1) (newline 1 ++ _)).map _ = _
    rw [readMembers_newline, ih f (by omega)]
    rfl

/-! ## Whole texts -/

/-- A text has a line for each member. -/
theorem length_le_writePrettyMembers (level : Nat) (members : List (String × Value)) :
    members.length ≤ (writePrettyMembers level members).length := by
  induction members with
  | nil => exact Nat.zero_le _
  | cons m members ih =>
    obtain ⟨k, v⟩ := m
    rw [writePrettyMembers]
    simp only [List.length_append, List.length_cons]
    omega

theorem quote_append_head (s : String) (cs : List Char) : ∃ tail, quote s ++ cs = '"' :: tail :=
  ⟨_, rfl⟩

/-- **The lines of an object of texts are taken apart into the object.** -/
theorem Document.read?_pretty_texts (es : List (String × String)) :
    Document.read? (writePretty 0 (.obj (textMembers es))) =
      some (.obj (takenMembers (textMembers es))) := by
  cases es with
  | nil => rfl
  | cons e es =>
    have hlines : writePretty 0 (.obj (textMembers (e :: es))) =
        '\x7b' :: (newline 1 ++ (quote e.1 ++ ':' :: ' ' :: (quote e.2 ++
          (writePrettyMembers 1 (textMembers es) ++ (newline 0 ++ ['\x7d']))))) := by
      rw [textMembers, List.map_cons, writePretty, writePretty]
      simp [textMembers]
    -- each member has a line of its own, so the bound on the calls is long enough
    have hcalls : es.length + 2 ≤ 2 * (writePretty 0 (.obj (textMembers (e :: es)))).length + 1 := by
      have hmembers := length_le_writePrettyMembers 1 (textMembers es)
      rw [textMembers, List.length_map] at hmembers
      rw [hlines]
      simp only [List.length_cons, List.length_append, textMembers]
      omega
    have hread := readMembers_texts e es hcalls []
    unfold Document.read?
    rw [hlines] at hread ⊢
    rw [readDocument_newline, readDocument_members (quote_append_head e.1 _), hread]
    rfl

/-- A map of texts is decoded from its members. -/
theorem Decoder.map_text_taken (es : List (String × String)) (room : Nat) :
    Decoder.map Decoder.text (room + 1) (.obj (takenMembers (textMembers es))) =
      some (SortedMap.ofList es) := by
  have hentries : ((takenMembers (textMembers es)).mapM (m := Option) fun m =>
      m.1.bind fun k => (Decoder.text room m.2).map fun v => (k, v)) = some es := by
    induction es with
    | nil => rfl
    | cons e es ih =>
      show ((some e.1, Document.str (some e.2)) :: takenMembers (textMembers es)).mapM _ = _
      rw [List.mapM_cons, ih]
      rfl
  simp only [Decoder.map, hentries, Option.map_some]

/-- **A map of texts is read back from its lines.** -/
theorem Decoder.fromText?_pretty_texts (m : SortedMap String) :
    (Decoder.map Decoder.text).fromText? (Value.obj (textMembers m.entries)).pretty = some m := by
  unfold Decoder.fromText? pretty
  rw [String.toList_ofList, Document.read?_pretty_texts]
  exact (map_text_taken m.entries _).trans (congrArg some m.ofList_entries)

end Json

end Shoreline
