import RelationalCatalog.Json.Reader
import RelationalCatalog.Proofs.Json.Token

/-!
# Written values are read back

`read_chars` is the round trip of the written form: reading the characters of a value gives the
draft of that value and stops right behind it. It holds for *legible* values (`Json.Legible`),
which leaves out floating-point numbers, integers of more than 64 bits and values that are nested
more deeply than a reader goes.

The proof is an induction on legibility. What it carries is `ReadsBack`: with fuel for four
steps a character, a value is read back in front of everything that can follow a value
(`Delimited`). Rows of items and members come first, each by induction on the row with one step
of the reader for an item.
-/

namespace RelationalCatalog

namespace Json

/-- A value whose written form is read back within `room` brackets: there is no floating-point
number in it, its integers have 64 bits, and no more brackets are open at once. -/
inductive Legible : Nat → Json → Prop
  | null {room : Nat} : Legible room .null
  | bool {room : Nat} (b : Bool) : Legible room (.bool b)
  | int {room : Nat} {n : Int} (low : minInt64 ≤ n) (high : n ≤ maxUInt64) :
    Legible room (.int n)
  | str {room : Nat} (s : String) : Legible room (.str s)
  | arr {room : Nat} {items : List Json} (h : ∀ v ∈ items, Legible room v) :
    Legible (room + 1) (.arr items)
  | obj {room : Nat} {members : List (String × Json)} (h : ∀ m ∈ members, Legible room m.2) :
    Legible (room + 1) (.obj members)

/-- What stands in a legible object is legible. -/
theorem Legible.of_mem {room : Nat} {members : List (String × Json)}
    (h : Legible (room + 1) (.obj members)) : ∀ m ∈ members, Legible room m.2 := by
  cases h with
  | obj h => exact h

end Json

namespace Draft

open Json Token

/-! ## What stands around values -/

/-- What follows a value within a written value, or behind it. -/
def Delimited (rest : List Char) : Prop := ∀ c ∈ rest.head?, c = ',' ∨ c = ']' ∨ c = '\x7d'

theorem Delimited.endsNumber {rest : List Char} (h : Delimited rest) : EndsNumber rest := by
  intro c hc
  rcases h c hc with rfl | rfl | rfl <;> decide

theorem delimited_itemChars (items : List Json) (rest : List Char) :
    Delimited (itemChars items ++ rest) := by
  cases items with
  | nil => simp [itemChars, Delimited]
  | cons v vs => simp [itemChars, Delimited]

theorem delimited_memberChars (members : List (String × Json)) (rest : List Char) :
    Delimited (memberChars members ++ rest) := by
  cases members with
  | nil => simp [memberChars, Delimited]
  | cons m ms =>
    obtain ⟨n, v⟩ := m
    simp [memberChars, Delimited]

theorem dropSpaces_cons {c : Char} (h : isSpace c = false) (cs : List Char) :
    dropSpaces (c :: cs) = c :: cs := by
  simp [dropSpaces, h]

/-- A character with which a written integer begins. -/
abbrev IntStart (c : Char) : Prop := c = '-' ∨ c.isDigit = true

theorem IntStart.ne {c d : Char} (hc : IntStart c) (hd : ¬ IntStart d) : c ≠ d := by
  rintro rfl
  exact hd hc

theorem IntStart.isSpace_eq_false {c : Char} (h : IntStart c) : isSpace c = false := by
  have hne : c ≠ ' ' ∧ c ≠ '\n' ∧ c ≠ '\t' ∧ c ≠ '\x0d' :=
    ⟨h.ne (by decide), h.ne (by decide), h.ne (by decide), h.ne (by decide)⟩
  simp [isSpace, hne]

/-- A written number begins with a digit or a minus sign. -/
theorem exists_cons_of_spellsNumeral {text : List Char} {n : Numeral} (h : SpellsNumeral text n) :
    ∃ c cs, text = c :: cs ∧ IntStart c := by
  obtain ⟨negative, w, -, -⟩ := h
  cases negative with
  | true => exact ⟨'-', _, rfl, Or.inl rfl⟩
  | false =>
    obtain ⟨d, ds, hds, hd⟩ := exists_natDigits_eq_cons w
    exact ⟨d, _, by rw [hds]; rfl, Or.inr hd⟩

theorem exists_intDigits_eq_cons (n : Int) :
    ∃ c cs, intDigits n = c :: cs ∧ IntStart c :=
  exists_cons_of_spellsNumeral (spellsNumeral_integerParts_iff.mpr rfl)

/-- A written value begins with a character that is neither a space nor a closing bracket. -/
theorem chars_eq_cons {room : Nat} {v : Json} (h : Legible room v) :
    ∃ c cs, v.chars = c :: cs ∧ isSpace c = false ∧ c ≠ ']' := by
  cases h with
  | null => exact ⟨_, _, by rw [chars], by decide, by decide⟩
  | bool b => cases b <;> exact ⟨_, _, by rw [chars], by decide, by decide⟩
  | @int _ n hlow hhigh =>
    obtain ⟨c, cs, hcs, hc⟩ := exists_intDigits_eq_cons n
    exact ⟨c, cs, by rw [chars, hcs], hc.isSpace_eq_false, hc.ne (by decide)⟩
  | str s => exact ⟨_, _, by rw [chars, quoted], by decide, by decide⟩
  | @arr room items h => cases items <;> exact ⟨_, _, by rw [chars], by decide, by decide⟩
  | @obj room members h =>
    cases members <;> exact ⟨_, _, by rw [chars], by decide, by decide⟩

/-- A character takes at least one between quotes. -/
theorem length_le_flatMap_escaped (text : List Char) :
    text.length ≤ (text.flatMap escaped).length := by
  induction text with
  | nil => simp
  | cons c text ih =>
    have hpos : 0 < (escaped c).length := by
      rcases escaped_cases c with ⟨e, -, -, h⟩ | ⟨-, h⟩ | ⟨-, -, -, h⟩ <;> simp [h]
    simp only [List.flatMap_cons, List.length_append, List.length_cons]
    omega

/-! ## Scalars -/

/-- A text between quotes is read back. -/
theorem ofQuoted_quoted (s : String) (rest : List Char) :
    ofQuoted (s.toList.flatMap escaped ++ '"' :: rest) = (.str s, some rest) := by
  have hfuel : s.toList.length < (s.toList.flatMap escaped ++ '"' :: rest).length + 1 := by
    have hlen := length_le_flatMap_escaped s.toList
    simp only [List.length_append]
    omega
  have hread := readText_flatMap_escaped s.toList rest _ hfuel
  rw [ofQuoted, hread, ofToken]
  simp

theorem read_null (fuel room : Nat) (rest : List Char) :
    read (fuel + 1) room (Json.null.chars ++ rest) = (.null, some rest) := by
  rw [chars, read, List.cons_append, dropSpaces_cons (by decide)]
  rfl

theorem read_bool (fuel room : Nat) (b : Bool) (rest : List Char) :
    read (fuel + 1) room ((Json.bool b).chars ++ rest) = (.bool b, some rest) := by
  cases b <;> rw [chars, read, List.cons_append, dropSpaces_cons (by decide)] <;> rfl

theorem read_str (fuel room : Nat) (s : String) (rest : List Char) :
    read (fuel + 1) room ((Json.str s).chars ++ rest) = (.str s, some rest) := by
  have h := ofQuoted_quoted s rest
  rw [chars, quoted, read, List.cons_append, dropSpaces_cons (by decide)]
  simpa using h

/-- A written number is read as its value; without one it is a fault that can be skipped. -/
theorem read_numeral (fuel room : Nat) {text rest : List Char} {n : Numeral}
    (h : SpellsNumeral text n) (hrest : EndsNumber rest) :
    read (fuel + 1) room (text ++ rest) =
      (n.value?.getD (.fault .malformed none), some rest) := by
  have hread : ofNumber (text ++ rest) = (n.value?.getD (.fault .malformed none), some rest) := by
    rw [ofNumber, numeral_append h hrest]
  obtain ⟨c, cs, rfl, hc⟩ := exists_cons_of_spellsNumeral h
  rw [List.cons_append] at hread ⊢
  rw [read, dropSpaces_cons hc.isSpace_eq_false]
  simp only [hc.ne (by decide : ¬ IntStart 'n'), hc.ne (by decide : ¬ IntStart 't'),
    hc.ne (by decide : ¬ IntStart 'f'), hc.ne (by decide : ¬ IntStart '"'), if_false]
  rw [if_pos hc, hread]

theorem read_int (fuel room : Nat) {n : Int} (hlow : minInt64 ≤ n) (hhigh : n ≤ maxUInt64)
    {rest : List Char} (hrest : Delimited rest) :
    read (fuel + 1) room ((Json.int n).chars ++ rest) = (.int n, some rest) := by
  rw [chars, read_numeral fuel room (spellsNumeral_integerParts_iff.mpr rfl) hrest.endsNumber,
    value?_of_int hlow hhigh, Option.getD_some]

/-! ## Steps of the reader -/

/-- Reading goes from the opening bracket to the items. -/
theorem read_arr (fuel room : Nat) (cs : List Char) :
    read (fuel + 1) (room + 1) ('[' :: cs) =
      (let (items, e, rest) := readFirstItem fuel room cs; (.arr items e, rest)) := by
  rw [read, dropSpaces_cons (by decide)]
  simp [itemsWithin]

/-- Reading goes from the opening brace to the members. -/
theorem read_obj (fuel room : Nat) (cs : List Char) :
    read (fuel + 1) (room + 1) ('\x7b' :: cs) =
      (let (members, e, rest) := readFirstMember fuel room cs; (.obj members e, rest)) := by
  rw [read, dropSpaces_cons (by decide)]
  simp [membersWithin]

theorem readFirstItem_close (fuel room : Nat) (rest : List Char) :
    readFirstItem (fuel + 1) room (']' :: rest) = ([], .closed, some rest) := by
  rw [readFirstItem, dropSpaces_cons (by decide)]
  rfl

theorem readFirstItem_cons {c : Char} (hspace : isSpace c = false) (hc : c ≠ ']')
    (fuel room : Nat) (cs : List Char) :
    readFirstItem (fuel + 1) room (c :: cs) = readItem fuel room (c :: cs) := by
  rw [readFirstItem, dropSpaces_cons hspace]
  exact if_neg hc

theorem readFirstMember_close (fuel room : Nat) (rest : List Char) :
    readFirstMember (fuel + 1) room ('\x7d' :: rest) = ([], .closed, some rest) := by
  rw [readFirstMember, dropSpaces_cons (by decide)]
  rfl

theorem readFirstMember_quoted (fuel room : Nat) (name : String) (cs : List Char) :
    readFirstMember (fuel + 1) room (quoted name ++ cs) =
      readMember fuel room (quoted name ++ cs) := by
  rw [quoted, List.cons_append, readFirstMember, dropSpaces_cons (by decide)]
  exact if_neg (by decide)

theorem readItem_last {fuel room : Nat} {cs rest : List Char} {item : Draft}
    (h : read fuel room cs = (item, some (']' :: rest))) :
    readItem (fuel + 1) room cs = ([item], .closed, some rest) := by
  rw [readItem, h]
  simp [dropSpaces_cons (show isSpace ']' = false by decide)]

theorem readItem_next {fuel room : Nat} {cs rest : List Char} {item : Draft}
    (h : read fuel room cs = (item, some (',' :: rest))) :
    readItem (fuel + 1) room cs =
      (let (items, e, rest) := readItem fuel room rest; (item :: items, e, rest)) := by
  rw [readItem, h]
  simp [dropSpaces_cons (show isSpace ',' = false by decide)]

theorem readMember_quoted (fuel room : Nat) (name : String) (cs : List Char) :
    readMember (fuel + 1) room (quoted name ++ cs) =
      (let (value, members, e, rest) := readNamed fuel room cs;
        ((name, value) :: members, e, rest)) := by
  rw [quoted, List.cons_append, List.append_assoc, readMember, dropSpaces_cons (by decide)]
  simp [ofQuoted_quoted]

theorem readNamed_last {fuel room : Nat} {cs rest : List Char} {value : Draft}
    (h : read fuel room cs = (value, some ('\x7d' :: rest))) :
    readNamed (fuel + 1) room (':' :: cs) = (value, [], .closed, some rest) := by
  rw [readNamed, dropSpaces_cons (by decide)]
  simp [h, dropSpaces_cons (show isSpace '\x7d' = false by decide)]

theorem readNamed_next {fuel room : Nat} {cs rest : List Char} {value : Draft}
    (h : read fuel room cs = (value, some (',' :: rest))) :
    readNamed (fuel + 1) room (':' :: cs) =
      (let (members, e, rest) := readMember fuel room rest; (value, members, e, rest)) := by
  rw [readNamed, dropSpaces_cons (by decide)]
  simp [h, dropSpaces_cons (show isSpace ',' = false by decide)]

/-! ## Items and members -/

/-- What reading a written value within `room` brackets is to give, with enough fuel. -/
def ReadsBack (room : Nat) (v : Json) : Prop :=
  ∀ (fuel : Nat) (rest : List Char), Delimited rest → 4 * v.chars.length ≤ fuel →
    read fuel room (v.chars ++ rest) = (v.toDraft .closed, some rest)

/-- Items that are read back one by one are read back in a row. -/
theorem readItem_chars {room : Nat} {v : Json} {vs : List Json} (hv : ReadsBack room v)
    (hvs : ∀ w ∈ vs, ReadsBack room w) (rest : List Char) (fuel : Nat)
    (hfuel : 4 * (v.chars.length + (itemChars vs).length) ≤ fuel) :
    readItem fuel room (v.chars ++ (itemChars vs ++ rest)) =
      (toDraftItems .closed (v :: vs), .closed, some rest) := by
  -- The item in front is another one at each step, and so is the fuel.
  induction vs generalizing v fuel with
  | nil =>
    have hlen : (itemChars []).length = 1 := by rw [itemChars]; rfl
    obtain ⟨fuel, rfl⟩ : ∃ k, fuel = k + 1 := ⟨fuel - 1, by omega⟩
    have hread := hv fuel _ (delimited_itemChars [] rest) (by omega)
    rw [itemChars, List.cons_append, List.nil_append] at hread ⊢
    rw [readItem_last hread]
    simp only [toDraftItems]
  | cons w ws ih =>
    have hlen : (itemChars (w :: ws)).length = 1 + (w.chars.length + (itemChars ws).length) := by
      rw [itemChars, List.length_cons, List.length_append, Nat.add_comm]
    obtain ⟨fuel, rfl⟩ : ∃ k, fuel = k + 1 := ⟨fuel - 1, by omega⟩
    have hread := hv fuel _ (delimited_itemChars (w :: ws) rest) (by omega)
    have hnext := ih (hvs w List.mem_cons_self)
      (fun x hx => hvs x (List.mem_cons_of_mem _ hx)) fuel (by omega)
    rw [itemChars, List.cons_append, List.append_assoc] at hread
    rw [itemChars, List.cons_append, List.append_assoc, readItem_next hread, hnext]
    simp only [toDraftItems]

/-- Members whose values are read back one by one are read back in a row. -/
theorem readMember_chars {room : Nat} {n : String} {v : Json} {ms : List (String × Json)}
    (hv : ReadsBack room v) (hms : ∀ m ∈ ms, ReadsBack room m.2) (rest : List Char) (fuel : Nat)
    (hfuel : 4 * ((quoted n).length + v.chars.length + (memberChars ms).length) ≤ fuel) :
    readMember fuel room (quoted n ++ ':' :: (v.chars ++ (memberChars ms ++ rest))) =
      (toDraftMembers .closed ((n, v) :: ms), .closed, some rest) := by
  induction ms generalizing n v fuel with
  | nil =>
    have hlen : (memberChars []).length = 1 := by rw [memberChars]; rfl
    obtain ⟨fuel, rfl⟩ : ∃ k, fuel = k + 2 := ⟨fuel - 2, by omega⟩
    have hread := hv fuel _ (delimited_memberChars [] rest) (by omega)
    rw [memberChars, List.cons_append, List.nil_append] at hread ⊢
    rw [readMember_quoted, readNamed_last hread]
    simp only [toDraftMembers]
  | cons m ms ih =>
    obtain ⟨n', w⟩ := m
    have hlen : (memberChars ((n', w) :: ms)).length =
        2 + ((quoted n').length + w.chars.length + (memberChars ms).length) := by
      simp only [memberChars, List.length_cons, List.length_append]
      omega
    obtain ⟨fuel, rfl⟩ : ∃ k, fuel = k + 2 := ⟨fuel - 2, by omega⟩
    have hw : ReadsBack room w := hms (n', w) List.mem_cons_self
    have hread := hv fuel _ (delimited_memberChars ((n', w) :: ms) rest) (by omega)
    have hnext := ih (n := n') hw
      (fun x hx => hms x (List.mem_cons_of_mem _ hx)) fuel (by omega)
    rw [memberChars] at hread ⊢
    simp only [List.cons_append, List.append_assoc] at hread ⊢
    rw [readMember_quoted, readNamed_next hread, hnext]
    simp only [toDraftMembers]

/-- An array is read back if its items are. -/
theorem ReadsBack.arr {room : Nat} {items : List Json} (hlegible : ∀ v ∈ items, Legible room v)
    (h : ∀ v ∈ items, ReadsBack room v) : ReadsBack (room + 1) (.arr items) := by
  intro fuel rest hrest hfuel
  cases items with
  | nil =>
    obtain ⟨fuel, rfl⟩ : ∃ k, fuel = k + 2 := ⟨fuel - 2, by simp [chars] at hfuel; omega⟩
    rw [chars, List.cons_append, List.cons_append, List.nil_append, read_arr,
      readFirstItem_close]
    simp only [toDraft, toDraftItems]
  | cons v vs =>
    rw [chars, List.length_cons, List.length_append] at hfuel
    obtain ⟨fuel, rfl⟩ : ∃ k, fuel = k + 2 := ⟨fuel - 2, by omega⟩
    have hread := readItem_chars (h v List.mem_cons_self)
      (fun w hw => h w (List.mem_cons_of_mem _ hw)) rest fuel (by omega)
    -- Behind an opening bracket the reader first looks for the closing one.
    obtain ⟨c, cs, hcs, hspace, hc⟩ := chars_eq_cons (hlegible v List.mem_cons_self)
    rw [hcs, List.cons_append] at hread
    rw [chars, hcs]
    simp only [List.cons_append, List.append_assoc]
    rw [read_arr, readFirstItem_cons hspace hc, hread]
    simp only [toDraft]

/-- An object is read back if the values of its members are. -/
theorem ReadsBack.obj {room : Nat} {members : List (String × Json)}
    (h : ∀ m ∈ members, ReadsBack room m.2) : ReadsBack (room + 1) (.obj members) := by
  intro fuel rest hrest hfuel
  cases members with
  | nil =>
    obtain ⟨fuel, rfl⟩ : ∃ k, fuel = k + 2 := ⟨fuel - 2, by simp [chars] at hfuel; omega⟩
    rw [chars, List.cons_append, List.cons_append, List.nil_append, read_obj,
      readFirstMember_close]
    simp only [toDraft, toDraftMembers]
  | cons m ms =>
    obtain ⟨n, v⟩ := m
    simp only [chars, List.length_cons, List.length_append] at hfuel
    obtain ⟨fuel, rfl⟩ : ∃ k, fuel = k + 2 := ⟨fuel - 2, by omega⟩
    have hv : ReadsBack room v := h (n, v) List.mem_cons_self
    have hread := readMember_chars (n := n) hv
      (fun w hw => h w (List.mem_cons_of_mem _ hw)) rest fuel (by omega)
    rw [chars]
    simp only [List.cons_append, List.append_assoc]
    rw [read_obj, readFirstMember_quoted, hread]
    simp only [toDraft]

/-- **Reading undoes writing**: a legible value is read back from its written form, whatever
delimiter follows. -/
theorem read_chars {room : Nat} {v : Json} (h : Legible room v) : ReadsBack room v := by
  induction h with
  | null =>
    intro fuel rest _ hfuel
    obtain ⟨fuel, rfl⟩ : ∃ k, fuel = k + 1 := ⟨fuel - 1, by simp [chars] at hfuel; omega⟩
    rw [read_null, toDraft]
  | bool b =>
    intro fuel rest _ hfuel
    obtain ⟨fuel, rfl⟩ : ∃ k, fuel = k + 1 :=
      ⟨fuel - 1, by cases b <;> simp [chars] at hfuel <;> omega⟩
    rw [read_bool, toDraft]
  | @int _ n hlow hhigh =>
    intro fuel rest hrest hfuel
    obtain ⟨c, cs, hcs, -⟩ := exists_intDigits_eq_cons n
    obtain ⟨fuel, rfl⟩ : ∃ k, fuel = k + 1 :=
      ⟨fuel - 1, by simp [chars, hcs] at hfuel; omega⟩
    rw [read_int fuel _ hlow hhigh hrest, toDraft]
  | str s =>
    intro fuel rest _ hfuel
    obtain ⟨fuel, rfl⟩ : ∃ k, fuel = k + 1 := ⟨fuel - 1, by simp [chars, quoted] at hfuel; omega⟩
    rw [read_str, toDraft]
  | arr h ih => exact ReadsBack.arr h ih
  | obj h ih => exact ReadsBack.obj ih

end Draft

/-- A legible value is read from its written form, with nothing behind it. -/
theorem Document.ofText_render {v : Json} (h : v.Legible maxNesting) :
    Document.ofText v.render = ⟨v.toDraft .closed, false⟩ := by
  have hread := Draft.read_chars h (tokenBound v.chars) [] (by simp [Draft.Delimited])
    (by rw [tokenBound]; omega)
  rw [List.append_nil] at hread
  rw [Document.ofText, Json.render, String.toList_ofList]
  simp only [hread]
  rfl

/-- A number is read from its written form, with nothing behind it. -/
theorem Document.ofText_numeral {text : List Char} {n : Token.Numeral}
    (h : Token.SpellsNumeral text n) :
    Document.ofText (String.ofList text) = ⟨n.value?.getD (.fault .malformed none), false⟩ := by
  have hend : Token.EndsNumber [] := nofun
  have hread := Draft.read_numeral (4 * text.length + 3) maxNesting h hend
  rw [List.append_nil] at hread
  rw [Document.ofText, String.toList_ofList]
  simp only [tokenBound, hread]
  rfl

end RelationalCatalog
