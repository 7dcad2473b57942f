import Shoreline.Json.Decoder
import Shoreline.Proofs.Json.Token

/-!
# `Shoreline.Proofs.Json.RoundTrip` — what was written is read back

A value whose numbers are whole numbers of 64 bits is read back from the line that was written for it:
taken apart it is the value taken apart, with the members in their order. Whoever keeps all of it gets
its normal form, if it does not nest too deep.

The reader carries a bound on its calls. `Value.calls` counts how many it makes for a value, and the
bound that is set from the length of the text is never short of that.

## Contents
- `Value.Exact`, `Value.calls`, `calls_le`; `Opens`.
- `readDocument_write` with its like for items and members.
- `keep_taken`; `Document.read?_write`, `Decoder.fromText?_compact`, `fromText?_value_compact`.
-/

namespace Shoreline.Json

open Decimal Text

namespace Value

mutual

/-- Every number is a whole number of 64 bits. -/
def Exact : Value → Prop
  | num (.int i) => IsWord i
  | num (.float _) => False
  | arr items => ExactItems items
  | obj members => ExactMembers members
  | _ => True

/-- Every number in the items is a whole number of 64 bits. -/
def ExactItems : List Value → Prop
  | [] => True
  | v :: rest => v.Exact ∧ ExactItems rest

/-- Every number in the members is a whole number of 64 bits. -/
def ExactMembers : List (String × Value) → Prop
  | [] => True
  | (_, v) :: rest => v.Exact ∧ ExactMembers rest

end

mutual

/-- How many calls the reader makes for a value. -/
def calls : Value → Nat
  | arr items => callsItems items + 1
  | obj members => callsMembers members + 1
  | _ => 1

/-- How many calls the reader makes for items. -/
def callsItems : List Value → Nat
  | [] => 0
  | v :: rest => v.calls + callsItems rest + 1

/-- How many calls the reader makes for members. -/
def callsMembers : List (String × Value) → Nat
  | [] => 0
  | (_, v) :: rest => v.calls + callsMembers rest + 1

end

end Value

open Value

/-! ## How a value begins -/

/-- A character with which a value begins. -/
def Opens (c : Char) : Prop := c ∈ ['n', 't', 'f', '"', '[', '{', '-'] ∨ c.isDigit = true

instance (c : Char) : Decidable (Opens c) := inferInstanceAs (Decidable (_ ∨ _))

theorem ne_of_opens {c d : Char} (h : Opens c) (hd : ¬ Opens d) : c ≠ d := by
  rintro rfl
  exact hd h

/-- No blank stands before a value. -/
theorem skipBlanks_of_opens {c : Char} (h : Opens c) (cs : List Char) :
    skipBlanks (c :: cs) = c :: cs := by
  have hspace := ne_of_opens h (d := ' ') (by decide)
  have htab := ne_of_opens h (d := '\t') (by decide)
  have hline := ne_of_opens h (d := '\n') (by decide)
  have hreturn := ne_of_opens h (d := '\r') (by decide)
  unfold skipBlanks
  rw [List.dropWhile_cons_of_neg]
  simp [hspace, htab, hline, hreturn]

/-- The first character of a numeral, with a sign or not. -/
theorem signed_head (i : Int) : ∃ c cs, signed i = c :: cs ∧ (c = '-' ∨ c.isDigit = true) := by
  unfold signed
  split
  · exact ⟨'-', numeral i.natAbs, rfl, Or.inl rfl⟩
  · obtain ⟨d, ds, hds, _⟩ := numeral_head i.natAbs
    refine ⟨d, ds, hds, Or.inr (isDigit_of_mem_numeral (n := i.natAbs) ?_)⟩
    rw [hds]
    exact List.mem_cons_self

theorem write_head {v : Value} (h : v.Exact) : ∃ c cs, v.write = c :: cs ∧ Opens c := by
  cases v with
  | null => exact ⟨'n', ['u', 'l', 'l'], by rfl, by decide⟩
  | bool b =>
    cases b with
    | true => exact ⟨'t', ['r', 'u', 'e'], by rfl, by decide⟩
    | false => exact ⟨'f', ['a', 'l', 's', 'e'], by rfl, by decide⟩
  | num n =>
    cases n with
    | int i =>
      obtain ⟨c, cs, hcs, hc⟩ := signed_head i
      refine ⟨c, cs, hcs, ?_⟩
      rcases hc with rfl | hdigit
      · decide
      · exact Or.inr hdigit
    | float f => exact h.elim
  | str s => exact ⟨'"', s.toList.flatMap escapeChar ++ ['"'], by rw [write, quote]; rfl, by decide⟩
  | arr items => exact ⟨'[', writeItems items ++ [']'], by rw [write]; rfl, by decide⟩
  | obj members => exact ⟨'\x7b', writeMembers members ++ ['\x7d'], by rw [write]; rfl, by decide⟩

theorem writeItems_head {items : List Value} (hne : items ≠ []) (h : ExactItems items) :
    ∃ c cs, writeItems items = c :: cs ∧ Opens c := by
  cases items with
  | nil => exact absurd rfl hne
  | cons v rest =>
    obtain ⟨c, cs, hcs, hc⟩ := write_head h.1
    cases rest with
    | nil => exact ⟨c, cs, by rw [writeItems, hcs], hc⟩
    | cons w rest => exact ⟨c, _, by rw [writeItems, hcs, List.cons_append], hc⟩

theorem writeMembers_head {members : List (String × Value)} (hne : members ≠ []) :
    ∃ cs, writeMembers members = '"' :: cs := by
  cases members with
  | nil => exact absurd rfl hne
  | cons m rest =>
    obtain ⟨k, v⟩ := m
    cases rest with
    | nil => exact ⟨_, by rw [writeMembers, quote]; rfl⟩
    | cons w rest => exact ⟨_, by rw [writeMembers, quote]; rfl⟩

/-! ## Reading -/

theorem ends_cons {c : Char} (h : c.isDigit = false ∧ c ≠ '.' ∧ c ≠ 'e' ∧ c ≠ 'E')
    (cs : List Char) : Ends (c :: cs) := by
  intro d hd
  obtain rfl := Option.some.inj hd
  exact h

/-- What begins with a digit or a minus sign is read as a number. -/
theorem readDocument_number {c : Char} (h : c = '-' ∨ c.isDigit = true) (fuel : Nat)
    (cs : List Char) :
    readDocument (fuel + 1) (c :: cs) =
      (readNumber (c :: cs)).map fun r => (.num r.1, r.2) := by
  have hopens : Opens c := by
    rcases h with rfl | hdigit
    · decide
    · exact Or.inr hdigit
  have hne : ∀ d : Char, d ≠ '-' → d.isDigit = false → c ≠ d := by
    rintro d hminus hdigit rfl
    rcases h with heq | htrue
    · exact hminus heq
    · rw [hdigit] at htrue
      cases htrue
  -- none of the other beginnings is a digit or a minus sign
  rw [readDocument, skipBlanks_of_opens hopens]
  split
  · next heq => cases heq
  · next heq => exact absurd (List.cons.inj heq).1 (hne _ (by decide) (by decide))
  · next heq => exact absurd (List.cons.inj heq).1 (hne _ (by decide) (by decide))
  · next heq => exact absurd (List.cons.inj heq).1 (hne _ (by decide) (by decide))
  · next heq => exact absurd (List.cons.inj heq).1 (hne _ (by decide) (by decide))
  · next heq => exact absurd (List.cons.inj heq).1 (hne _ (by decide) (by decide))
  · next heq => exact absurd (List.cons.inj heq).1 (hne _ (by decide) (by decide))
  · rfl

/-- An array with items is read item by item. -/
theorem readDocument_items {cs : List Char} (h : ∃ c tail, cs = c :: tail ∧ Opens c)
    (fuel : Nat) :
    readDocument (fuel + 1) ('[' :: cs) = (readItems fuel cs).map fun r => (.arr r.1, r.2) := by
  obtain ⟨c, tail, rfl, hc⟩ := h
  rw [readDocument, skipBlanks_of_opens (by decide)]
  simp only [skipBlanks_of_opens hc]
  split
  · next heq => exact absurd (List.cons.inj heq).1 (ne_of_opens hc (by decide))
  · rfl

/-- An object with members is read member by member. -/
theorem readDocument_members {cs : List Char} (h : ∃ tail, cs = '"' :: tail) (fuel : Nat) :
    readDocument (fuel + 1) ('\x7b' :: cs) =
      (readMembers fuel cs).map fun r => (.obj r.1, r.2) := by
  obtain ⟨tail, rfl⟩ := h
  rw [readDocument, skipBlanks_of_opens (by decide)]
  simp only [skipBlanks_of_opens (c := '"') (by decide)]
  split
  · next heq => exact absurd (List.cons.inj heq).1 (by decide)
  · rfl

/-- The name of a member is read, and what it names comes next. -/
theorem readMembers_name (k : String) (fuel : Nat) (cs : List Char) :
    readMembers (fuel + 1) (quote k ++ ':' :: cs) =
      match readDocument fuel cs with
      | none => none
      | some (d, rest) =>
        match skipBlanks rest with
        | '\x7d' :: rest' => some ([(some k, d)], rest')
        | ',' :: rest' => (readMembers fuel rest').map fun r => ((some k, d) :: r.1, r.2)
        | _ => none := by
  rw [quote, List.append_assoc, List.cons_append, readMembers, skipBlanks_of_opens (by decide)]
  simp only [List.singleton_append, readString_quote]
  rfl

-- Reading goes down by the bound on the calls, not by the value: items and members are not smaller
-- values, but each call leaves a smaller bound.

mutual

/-- **A value that was written is read back**, whatever stands behind it. -/
theorem readDocument_write (v : Value) (fuel : Nat) (h : v.Exact) (hfuel : v.calls ≤ fuel)
    {rest : List Char} (hrest : Ends rest) :
    readDocument fuel (v.write ++ rest) = some (v.taken, rest) := by
  cases fuel with
  | zero => cases v <;> simp [calls] at hfuel
  | succ fuel =>
    cases v with
    | null => rfl
    | bool b => cases b <;> rfl
    | num n =>
      cases n with
      | float f => exact h.elim
      | int i =>
        obtain ⟨c, cs, hcs, hc⟩ := signed_head i
        have hnumber := readNumber_signed h hrest
        rw [hcs, List.cons_append] at hnumber
        rw [write, writeNumber, hcs, List.cons_append, readDocument_number hc, hnumber]
        rfl
    | str s =>
      rw [write, quote, List.append_assoc, List.cons_append, readDocument,
        skipBlanks_of_opens (by decide)]
      simp only [List.singleton_append, readString_quote]
      rfl
    | arr items =>
      by_cases hnil : items = []
      · subst hnil
        rfl
      · have hcalls : callsItems items ≤ fuel := Nat.le_of_succ_le_succ hfuel
        obtain ⟨c, cs, hcs, hc⟩ := writeItems_head hnil h
        have hitems := readItems_write items hnil fuel h hcalls rest
        rw [write, List.append_assoc, List.cons_append, List.singleton_append,
          readDocument_items ⟨c, _, by rw [hcs, List.cons_append], hc⟩, hitems]
        rfl
    | obj members =>
      by_cases hnil : members = []
      · subst hnil
        rfl
      · have hcalls : callsMembers members ≤ fuel := Nat.le_of_succ_le_succ hfuel
        obtain ⟨cs, hcs⟩ := writeMembers_head hnil
        have hmembers := readMembers_write members hnil fuel h hcalls rest
        rw [write, List.append_assoc, List.cons_append, List.singleton_append,
          readDocument_members ⟨_, by rw [hcs, List.cons_append]⟩, hmembers]
        rfl
termination_by fuel

/-- Items that were written are read back, with the bracket behind them. -/
theorem readItems_write (items : List Value) (hne : items ≠ []) (fuel : Nat)
    (h : ExactItems items) (hfuel : callsItems items ≤ fuel) (rest : List Char) :
    readItems fuel (writeItems items ++ ']' :: rest) = some (takenItems items, rest) := by
  cases items with
  | nil => exact absurd rfl hne
  | cons v items =>
    obtain ⟨hv, hitems⟩ := h
    rw [callsItems] at hfuel
    obtain ⟨fuel, rfl⟩ : ∃ n, fuel = n + 1 := ⟨fuel - 1, by omega⟩
    by_cases hnil : items = []
    · subst hnil
      have hread := readDocument_write v fuel hv (by omega)
        (ends_cons (c := ']') (by decide) rest)
      rw [writeItems, readItems, hread]
      rfl
    · obtain ⟨w, tail, rfl⟩ := List.exists_cons_of_ne_nil hnil
      have hread := readDocument_write v fuel hv (by omega)
        (ends_cons (c := ',') (by decide) (writeItems (w :: tail) ++ ']' :: rest))
      have hlater := readItems_write (w :: tail) hnil fuel hitems (by omega) rest
      rw [writeItems, List.append_assoc, List.cons_append, readItems, hread]
      show (readItems fuel (writeItems (w :: tail) ++ ']' :: rest)).map _ = _
      rw [hlater]
      rfl
termination_by fuel

/-- Members that were written are read back, with the brace behind them. -/
theorem readMembers_write (members : List (String × Value)) (hne : members ≠ []) (fuel : Nat)
    (h : ExactMembers members) (hfuel : callsMembers members ≤ fuel) (rest : List Char) :
    readMembers fuel (writeMembers members ++ '\x7d' :: rest) =
      some (takenMembers members, rest) := by
  cases members with
  | nil => exact absurd rfl hne
  | cons m members =>
    obtain ⟨k, v⟩ := m
    obtain ⟨hv, hmembers⟩ := h
    rw [callsMembers] at hfuel
    obtain ⟨fuel, rfl⟩ : ∃ n, fuel = n + 1 := ⟨fuel - 1, by omega⟩
    by_cases hnil : members = []
    · subst hnil
      have hread := readDocument_write v fuel hv (by omega)
        (ends_cons (c := '\x7d') (by decide) rest)
      rw [writeMembers, List.append_assoc, List.cons_append, readMembers_name, hread]
      rfl
    · obtain ⟨w, tail, rfl⟩ := List.exists_cons_of_ne_nil hnil
      have hread := readDocument_write v fuel hv (by omega)
        (ends_cons (c := ',') (by decide) (writeMembers (w :: tail) ++ '\x7d' :: rest))
      have hlater := readMembers_write (w :: tail) hnil fuel hmembers (by omega) rest
      rw [writeMembers, List.append_assoc, List.cons_append, List.append_assoc, List.cons_append,
        readMembers_name, hread]
      show (readMembers fuel (writeMembers (w :: tail) ++ '\x7d' :: rest)).map _ = _
      rw [hlater]
      rfl
termination_by fuel

end

/-! ## The bound on the calls -/

mutual

/-- The reader makes at most two calls for a character. -/
theorem calls_le (v : Value) (h : v.Exact) : v.calls ≤ 2 * v.write.length := by
  cases v with
  | arr items =>
    have hitems := callsItems_le items h
    rw [calls, write, List.length_append, List.length_cons, List.length_singleton]
    omega
  | obj members =>
    have hmembers := callsMembers_le members h
    rw [calls, write, List.length_append, List.length_cons, List.length_singleton]
    omega
  | _ =>
    -- everything else takes one call and has at least one character
    obtain ⟨c, cs, hcs, _⟩ := write_head h
    rw [hcs, List.length_cons, calls.eq_def]
    simp only
    omega
termination_by sizeOf v

theorem callsItems_le (items : List Value) (h : ExactItems items) :
    callsItems items ≤ 2 * (writeItems items).length + 1 := by
  cases items with
  | nil => exact Nat.zero_le _
  | cons v items =>
    obtain ⟨hv, hitems⟩ := h
    have hfirst := calls_le v hv
    have hlater := callsItems_le items hitems
    cases items with
    | nil =>
      rw [callsItems, callsItems, writeItems]
      omega
    | cons w items =>
      rw [callsItems, writeItems, List.length_append, List.length_cons]
      omega
termination_by sizeOf items

theorem callsMembers_le (members : List (String × Value)) (h : ExactMembers members) :
    callsMembers members ≤ 2 * (writeMembers members).length + 1 := by
  match members, h with
  | [], _ => exact Nat.zero_le _
  | (k, v) :: members, ⟨hv, hmembers⟩ =>
    have hfirst := calls_le v hv
    have hlater := callsMembers_le members hmembers
    cases members with
    | nil =>
      rw [callsMembers, callsMembers, writeMembers, List.length_append, List.length_cons]
      omega
    | cons w members =>
      rw [callsMembers, writeMembers, List.length_append, List.length_cons, List.length_append,
        List.length_cons]
      omega
termination_by sizeOf members

end

/-! ## Keeping -/

mutual

/-- **What is kept of a value is its normal form**, as long as there is room for its depth. -/
theorem keep_taken (v : Value) (room : Nat) (h : v.depth ≤ room) :
    v.taken.keep room = some v.normal := by
  cases v with
  | arr items =>
    rw [depth] at h
    obtain ⟨room, rfl⟩ : ∃ n, room = n + 1 := ⟨room - 1, by omega⟩
    have hitems := keepItems_taken items room (by omega)
    rw [taken, Document.keep, hitems, normal]
    rfl
  | obj members =>
    rw [depth] at h
    obtain ⟨room, rfl⟩ : ∃ n, room = n + 1 := ⟨room - 1, by omega⟩
    have hmembers := keepMembers_taken members room (by omega) []
    rw [taken, Document.keep, hmembers, normal]
    rfl
  | _ => rfl
termination_by sizeOf v

theorem keepItems_taken (items : List Value) (room : Nat) (h : depthItems items ≤ room) :
    Document.keepItems room (takenItems items) = some (normalItems items) := by
  cases items with
  | nil => rfl
  | cons v items =>
    rw [depthItems, Nat.max_le] at h
    rw [takenItems, Document.keepItems, keep_taken v room h.1, normalItems]
    simp only [keepItems_taken items room h.2, Option.map_some]
termination_by sizeOf items

theorem keepMembers_taken (members : List (String × Value)) (room : Nat)
    (h : depthMembers members ≤ room) (placed : List (String × Value)) :
    Document.keepMembers room placed (takenMembers members) =
      some (normalMembers placed members) := by
  match members, h with
  | [], _ => rfl
  | (k, v) :: members, h =>
    rw [depthMembers, Nat.max_le] at h
    rw [takenMembers, Document.keepMembers, keep_taken v room h.1, normalMembers]
    simp only [keepMembers_taken members room h.2]
termination_by sizeOf members

end

/-! ## Whole texts -/

/-- **The text of a value is taken apart into the value.** -/
theorem Document.read?_write {v : Value} (h : v.Exact) : Document.read? v.write = some v.taken := by
  have hcalls : v.calls ≤ 2 * v.write.length + 2 := Nat.le_add_right_of_le (calls_le v h)
  have hread := readDocument_write v _ h hcalls ends_nil
  rw [List.append_nil] at hread
  unfold Document.read?
  rw [hread]
  rfl

/-- A decoder reads from the text of a value what it reads from the value. -/
theorem Decoder.fromText?_compact {α : Type} (d : Decoder α) {v : Value} (h : v.Exact) :
    d.fromText? v.compact = d maxNesting v.taken := by
  unfold Decoder.fromText? compact
  rw [String.toList_ofList, Document.read?_write h]
  rfl

/-- **The text of a value is read back as its normal form.** -/
theorem fromText?_value_compact {v : Value} (h : v.Exact) (hdepth : v.depth ≤ maxNesting) :
    Decoder.value.fromText? v.compact = some v.normal := by
  rw [Decoder.fromText?_compact Decoder.value h]
  exact keep_taken v maxNesting hdepth

end Shoreline.Json
