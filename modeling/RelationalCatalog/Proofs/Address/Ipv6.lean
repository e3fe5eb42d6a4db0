import RelationalCatalog.Address.Ipv6
import RelationalCatalog.Proofs.Address.Ipv4
import Mathlib.Data.List.Basic

/-!
# Which texts are addresses of eight groups

`Ipv6.Spelled` says which texts stand for an address: eight groups, or fewer of them with two colons
in a place of at least one zero group. A group has one to four hexadecimal digits, and the last two
groups may be four octets. The reader takes as many groups as it can, but this never is too many:
what it takes is spelled like that (`Ipv6.exists_of_take`), and all that is spelled like that is
taken (`Ipv6.take_append`).

Of the texts for an address, one is printed (`Ipv6.spelled_chars`). For that it is enough that a run
of zero groups is left out, be it the longest or not.
-/

namespace RelationalCatalog

/-! ## Groups -/

/-- Whether a character is a hexadecimal digit. -/
def isHexDigit (c : Char) : Bool := (hexValue? c).isSome

/-- One to four hexadecimal digits that spell a group. -/
structure SpellsGroup (digits : List Char) (g : UInt16) : Prop where
  /-- there is a digit -/
  ne_nil : digits ≠ []
  /-- there are no more than four -/
  length_le : digits.length ≤ 4
  /-- there are only digits -/
  isHexDigit : ∀ c ∈ digits, isHexDigit c = true
  /-- the digits spell the group -/
  value : UInt16.ofNat (hexNumber digits) = g

/-- A colon in front of each group but the first. -/
def separator (isFirst : Bool) : List Char := if isFirst then [] else [':']

/-- Groups, each with its separator in front. The last two may be octets. -/
inductive SpellsGroups : (isFirst : Bool) → List Char → List UInt16 → (dotted : Bool) → Prop
  | nil {isFirst : Bool} : SpellsGroups isFirst [] [] false
  | octets {isFirst : Bool} (ip : Ipv4) :
    SpellsGroups isFirst (separator isFirst ++ ip.chars) ip.groups true
  | cons {isFirst dotted : Bool} {digits text : List Char} {g : UInt16} {gs : List UInt16}
    (first : SpellsGroup digits g) (rest : SpellsGroups false text gs dotted) :
    SpellsGroups isFirst (separator isFirst ++ digits ++ text) (g :: gs) dotted

variable {cs rest text : List Char} {g : UInt16} {gs : List UInt16} {isFirst dotted : Bool}

theorem isHexDigit_of_isDigit {c : Char} (h : c.isDigit = true) : isHexDigit c = true := by
  have hrange : '0' ≤ c ∧ c ≤ '9' := by
    simp only [Char.isDigit, Bool.and_eq_true, decide_eq_true_eq] at h
    exact h
  rw [isHexDigit, hexValue?, if_pos hrange]
  rfl

/-- A group takes its digits, and these are all that there are. -/
theorem takeGroup_eq_some_iff :
    takeGroup cs = some (g, rest) ↔
      ∃ digits, cs = digits ++ rest ∧ SpellsGroup digits g ∧ Leaves isHexDigit rest := by
  have hrun (cs : List Char) : hexRun cs = (cs.takeWhile isHexDigit, cs.dropWhile isHexDigit) := rfl
  constructor
  · intro h
    by_cases hbad : cs.takeWhile isHexDigit = [] ∨ 4 < (cs.takeWhile isHexDigit).length
    · simp only [takeGroup, hrun, List.isEmpty_iff, hbad, if_true, reduceCtorEq] at h
    · simp only [takeGroup, hrun, List.isEmpty_iff, hbad, if_false, Option.some.injEq,
        Prod.mk.injEq] at h
      obtain ⟨hne, hlength⟩ := not_or.mp hbad
      obtain ⟨hvalue, rfl⟩ := h
      exact ⟨_, List.takeWhile_append_dropWhile.symm,
        ⟨hne, Nat.le_of_not_lt hlength, forall_mem_takeWhile cs, hvalue⟩, leaves_dropWhile cs⟩
  · rintro ⟨digits, rfl, hspells, hrest⟩
    simp only [takeGroup, hrun, takeWhile_run hspells.isHexDigit hrest,
      dropWhile_run hspells.isHexDigit hrest, List.isEmpty_iff, hspells.ne_nil,
      Nat.not_lt.mpr hspells.length_le, or_self, if_false, hspells.value]

theorem takeGroup_of_leaves (h : Leaves isHexDigit cs) : takeGroup cs = none := by
  refine Option.eq_none_iff_forall_ne_some.mpr fun ⟨g, rest⟩ htake => ?_
  obtain ⟨digits, rfl, hspells, -⟩ := takeGroup_eq_some_iff.mp htake
  obtain ⟨d, ds, rfl⟩ := List.exists_cons_of_ne_nil hspells.ne_nil
  have hnot := h d rfl
  rw [hspells.isHexDigit d List.mem_cons_self] at hnot
  cases hnot

/-- What can follow groups: the end of the address, or the two colons for the groups left out. -/
inductive EndsGroups : List Char → Prop
  | bracket (rest : List Char) : EndsGroups (']' :: rest)
  | percent (rest : List Char) : EndsGroups ('%' :: rest)
  | colons (rest : List Char) : EndsGroups (':' :: ':' :: rest)

theorem EndsGroups.leaves (h : EndsGroups rest) : Leaves isHexDigit rest := by
  cases h with
  | bracket | percent | colons => exact leaves_cons (by decide) _

/-- Behind a group follows a colon or the end. -/
theorem SpellsGroups.head_append (h : SpellsGroups false text gs dotted) (hrest : EndsGroups rest) :
    ∃ c cs, text ++ rest = c :: cs ∧ isHexDigit c = false ∧ c ≠ '.' := by
  cases h with
  | nil => 
    cases hrest with
    | bracket | percent | colons => exact ⟨_, _, rfl, by decide, by decide⟩
  | octets ip => exact ⟨':', _, rfl, by decide, by decide⟩
  | cons first rest => exact ⟨':', _, rfl, by decide, by decide⟩

/-! ## Reading groups -/

/-- Behind a separator, four octets are looked for where there is room for two groups, and then a
group. -/
theorem takeGroups_succ (limit : Nat) (isFirst : Bool) (behind : List Char) :
    takeGroups (limit + 1) isFirst (separator isFirst ++ behind) =
      match if 0 < limit then Ipv4.take behind else none with
      | some (ip, rest) => ⟨ip.groups, true, rest⟩
      | none =>
        match takeGroup behind with
        | none => ⟨[], false, separator isFirst ++ behind⟩
        | some (g, rest) =>
          { takeGroups limit false rest with groups := g :: (takeGroups limit false rest).groups } := by
  cases isFirst <;> rfl

/-- Reading stops where groups end. -/
theorem takeGroups_of_endsGroups (h : EndsGroups cs) (limit : Nat) (isFirst : Bool) :
    takeGroups limit isFirst cs = ⟨[], false, cs⟩ := by
  cases limit with
  | zero => rfl
  | succ limit =>
    have hstop {behind : List Char} (hcs : cs = separator isFirst ++ behind)
        (hbehind : Leaves isHexDigit behind) :
        takeGroups (limit + 1) isFirst cs = ⟨[], false, cs⟩ := by
      have hdigit : Leaves Char.isDigit behind := by
        intro c hc
        cases hc' : c.isDigit with
        | false => rfl
        | true => exact absurd (isHexDigit_of_isDigit hc') (by rw [hbehind c hc]; decide)
      rw [hcs, takeGroups_succ, Ipv4.take_of_leaves hdigit, ite_self,
        takeGroup_of_leaves hbehind]
    cases isFirst with
    | true => exact hstop rfl h.leaves
    | false =>
      cases h with
      | bracket | percent => rfl
      | colons rest => exact @hstop (':' :: rest) rfl (leaves_cons (by decide) rest)

/-- A group is no beginning of four octets, since no point follows it. -/
theorem take_of_spellsGroup {digits : List Char} (h : SpellsGroup digits g)
    (hrest : ∃ c cs, rest = c :: cs ∧ isHexDigit c = false ∧ c ≠ '.') :
    Ipv4.take (digits ++ rest) = none := by
  refine Option.eq_none_iff_forall_ne_some.mpr fun ⟨ip, rest'⟩ htake => ?_
  obtain ⟨heq, -⟩ := Ipv4.take_eq_some_iff.mp htake
  obtain ⟨c, cs, rfl, hc, hpoint⟩ := hrest
  -- Behind the longest run of hexadecimal digits stands a point on one side, but not on the other.
  have hleft := dropWhile_run h.isHexDigit (leaves_cons hc cs)
  have hoctet : ∀ d ∈ natDigits ip.a.toNat, isHexDigit d = true := fun d hd =>
    isHexDigit_of_isDigit (isDigit_of_mem_natDigits hd)
  have hright (tail : List Char) :
      (natDigits ip.a.toNat ++ '.' :: tail).dropWhile isHexDigit = '.' :: tail :=
    dropWhile_run hoctet (leaves_cons (by decide) tail)
  rw [heq, Ipv4.chars] at hleft
  simp only [List.append_assoc, List.cons_append] at hleft
  rw [hright] at hleft
  exact hpoint (List.cons.inj hleft).1.symm

/-- **All groups are taken**, and the text behind them is left. -/
theorem takeGroups_append (h : SpellsGroups isFirst text gs dotted) {limit : Nat}
    (hlimit : gs.length ≤ limit) (hrest : EndsGroups rest) :
    takeGroups limit isFirst (text ++ rest) = ⟨gs, dotted, rest⟩ := by
  induction h generalizing limit with
  | nil => exact takeGroups_of_endsGroups hrest limit _
  | @octets isFirst ip =>
    obtain ⟨limit, rfl⟩ : ∃ n, limit = n + 2 := ⟨limit - 2, (Nat.sub_add_cancel hlimit).symm⟩
    have hdigit : Leaves Char.isDigit rest := by
      cases hrest with
      | bracket | percent | colons => exact leaves_cons (by decide) _
    have htake : Ipv4.take (ip.chars ++ rest) = some (ip, rest) :=
      Ipv4.take_eq_some_iff.mpr ⟨rfl, hdigit⟩
    rw [List.append_assoc, takeGroups_succ, if_pos (Nat.succ_pos limit), htake]
  | @cons isFirst dotted digits text g gs first more ih =>
    obtain ⟨limit, rfl⟩ : ∃ n, limit = n + 1 :=
      ⟨limit - 1, (Nat.sub_add_cancel (Nat.le_trans (Nat.succ_pos _) hlimit)).symm⟩
    have hhead := more.head_append hrest
    have hhex : Leaves isHexDigit (text ++ rest) := by
      obtain ⟨c, cs, hcs, hc, -⟩ := hhead
      rw [hcs]
      exact leaves_cons hc cs
    have hgroup : takeGroup (digits ++ (text ++ rest)) = some (g, text ++ rest) :=
      takeGroup_eq_some_iff.mpr ⟨digits, rfl, first, hhex⟩
    rw [List.append_assoc, List.append_assoc, takeGroups_succ, take_of_spellsGroup first hhead,
      ite_self, hgroup]
    simp only [ih (Nat.le_of_succ_le_succ hlimit)]

/-- Without a colon in front there is no further group. -/
theorem takeGroups_of_no_separator (h : ∀ behind, cs ≠ separator isFirst ++ behind) (limit : Nat) :
    takeGroups limit isFirst cs = ⟨[], false, cs⟩ := by
  cases isFirst with
  | true => exact absurd rfl (h cs)
  | false =>
    have hmark : takeMark ':' cs = none :=
      Option.eq_none_iff_forall_ne_some.mpr fun behind hbehind =>
        h behind (takeMark_eq_some_iff.mp hbehind)
    cases limit with
    | zero => rfl
    | succ limit =>
      rw [takeGroups, if_neg Bool.false_ne_true, hmark]

/-- What is taken are groups. -/
theorem exists_of_takeGroups (limit : Nat) (isFirst : Bool) (cs : List Char) :
    ∃ text, cs = text ++ (takeGroups limit isFirst cs).rest ∧
      SpellsGroups isFirst text (takeGroups limit isFirst cs).groups
        (takeGroups limit isFirst cs).dotted := by
  induction limit generalizing isFirst cs with
  | zero => exact ⟨[], rfl, .nil⟩
  | succ limit ih =>
    by_cases hseparator : ∃ behind, cs = separator isFirst ++ behind
    · obtain ⟨behind, rfl⟩ := hseparator
      rw [takeGroups_succ]
      cases hoctets : if 0 < limit then Ipv4.take behind else none with
      | some r =>
        obtain ⟨ip, rest⟩ := r
        have htake : Ipv4.take behind = some (ip, rest) := by
          split at hoctets
          · exact hoctets
          · cases hoctets
        obtain ⟨rfl, -⟩ := Ipv4.take_eq_some_iff.mp htake
        exact ⟨separator isFirst ++ ip.chars, (List.append_assoc ..).symm, .octets ip⟩
      | none =>
        cases hgroup : takeGroup behind with
        | none => exact ⟨[], rfl, .nil⟩
        | some r =>
          obtain ⟨g, rest⟩ := r
          obtain ⟨digits, rfl, hspells, -⟩ := takeGroup_eq_some_iff.mp hgroup
          obtain ⟨text, hrest, hmore⟩ := ih false rest
          refine ⟨separator isFirst ++ digits ++ text, ?_, .cons hspells hmore⟩
          rw [List.append_assoc, List.append_assoc]
          exact congrArg (fun rest => separator isFirst ++ (digits ++ rest)) hrest
    · rw [takeGroups_of_no_separator (not_exists.mp hseparator)]
      exact ⟨[], rfl, .nil⟩

namespace Ipv6

/-! ## Addresses -/

/-- The texts that stand for an address. -/
inductive Spelled : List Char → Ipv6 → Prop
  /-- All groups are written. -/
  | full {text : List Char} {gs : List UInt16} {dotted : Bool}
    (h : SpellsGroups true text gs dotted) (length_eq : gs.length = 8) : Spelled text ⟨gs, length_eq⟩
  /-- Two colons stand for at least one zero group. -/
  | shortened {front back : List Char} {fs bs : List UInt16} {dotted : Bool}
    (hfront : SpellsGroups true front fs false) (hback : SpellsGroups true back bs dotted)
    (hlength : fs.length + bs.length ≤ 7) :
    Spelled (front ++ ':' :: ':' :: back) (ofEnds fs bs (Nat.le_succ_of_le hlength))

/-- What follows an address: its scope, or the bracket that closes it. -/
inductive Ends : List Char → Prop
  | bracket (rest : List Char) : Ends (']' :: rest)
  | percent (rest : List Char) : Ends ('%' :: rest)

theorem Ends.endsGroups (h : Ends rest) : EndsGroups rest := by
  cases h with
  | bracket rest => exact .bracket rest
  | percent rest => exact .percent rest

variable {ip : Ipv6}

/-- **All texts for an address are taken as that address.** -/
theorem take_append (h : Spelled text ip) (hrest : Ends rest) :
    take (text ++ rest) = some (ip, rest) := by
  cases h with
  | full h hlength =>
    have hread := takeGroups_append h (Nat.le_of_eq hlength) hrest.endsGroups
    simp only [take, hread, hlength, dif_pos]
  | @shortened front back fs bs dotted hfront hback hlength =>
    have hread : takeGroups 8 true (front ++ (':' :: ':' :: (back ++ rest))) =
        ⟨fs, false, ':' :: ':' :: (back ++ rest)⟩ :=
      takeGroups_append hfront (by omega) (.colons _)
    have hrest := takeGroups_append hback (by omega : bs.length ≤ 7 - fs.length) hrest.endsGroups
    have hfull : fs.length ≠ 8 := by omega
    simp only [take, List.append_assoc, List.cons_append, hread, hfull, hrest, dif_neg,
      not_false_eq_true, Bool.false_eq_true, if_false]

/-- What is taken as an address is a text for it. -/
theorem exists_of_take (h : take cs = some (ip, rest)) :
    ∃ text, cs = text ++ rest ∧ Spelled text ip := by
  obtain ⟨front, hfront, hgroups⟩ := exists_of_takeGroups 8 true cs
  have hlimit := length_takeGroups 8 true cs
  simp only [take] at h
  split at h
  · cases h
    exact ⟨front, hfront, .full hgroups _⟩
  · rename_i hfull
    split at h
    · cases h
    · rename_i hdotted
      rw [Bool.not_eq_true] at hdotted
      rw [hdotted] at hgroups
      split at h
      · rename_i behind hbehind
        obtain ⟨back, hback, hmore⟩ :=
          exists_of_takeGroups (7 - (takeGroups 8 true cs).groups.length) true behind
        have hroom := length_takeGroups (7 - (takeGroups 8 true cs).groups.length) true behind
        cases h
        refine ⟨front ++ ':' :: ':' :: back, ?_, .shortened hgroups hmore (by omega)⟩
        rw [List.append_assoc, List.cons_append, List.cons_append, ← hback, ← hbehind]
        exact hfront
      · cases h

/-! ## The printed form -/

theorem hexNumber_map_hexDigit {ds : List Nat} (h : ∀ d ∈ ds, d < 16) :
    hexNumber (ds.map hexDigit) = ds.foldl (fun n d => n * 16 + d) 0 := by
  rw [hexNumber, List.foldl_map]
  refine List.foldl_ext _ _ _ fun n d hd => ?_
  rw [hexValue?_hexDigit (h d hd), Option.getD_some]

theorem spellsGroup_map_hexDigit {ds : List Nat} (hne : ds ≠ []) (hlength : ds.length ≤ 4)
    (h : ∀ d ∈ ds, d < 16) :
    SpellsGroup (ds.map hexDigit) (UInt16.ofNat (ds.foldl (fun n d => n * 16 + d) 0)) where
  ne_nil := by simpa using hne
  length_le := by simpa using hlength
  isHexDigit c hc := by
    obtain ⟨d, hd, rfl⟩ := List.mem_map.mp hc
    rw [RelationalCatalog.isHexDigit, hexValue?_hexDigit (h d hd)]
    rfl
  value := by rw [hexNumber_map_hexDigit h]

/-- A group is printed with digits that spell it. -/
theorem spellsGroup_groupChars (g : UInt16) : SpellsGroup (groupChars g) g := by
  have hlt := g.toNat_lt
  have hspells (ds : List Nat) (hne : ds ≠ []) (hlength : ds.length ≤ 4) (h : ∀ d ∈ ds, d < 16)
      (hvalue : ds.foldl (fun n d => n * 16 + d) 0 = g.toNat) :
      SpellsGroup (ds.map hexDigit) g := by
    have hds := spellsGroup_map_hexDigit hne hlength h
    rwa [hvalue, UInt16.ofNat_toNat] at hds
  simp only [groupChars]
  split_ifs with h₁ h₂ h₃
  · exact hspells [g.toNat] (by simp) (by simp) (by simpa using h₁) (by simp)
  · exact hspells [g.toNat / 0x10, g.toNat % 0x10] (by simp) (by simp)
      (by simp; omega) (by simp; omega)
  · exact hspells [g.toNat / 0x100, g.toNat / 0x10 % 0x10, g.toNat % 0x10] (by simp) (by simp)
      (by simp; omega) (by simp; omega)
  · exact hspells [g.toNat / 0x1000, g.toNat / 0x100 % 0x10, g.toNat / 0x10 % 0x10,
      g.toNat % 0x10] (by simp) (by simp) (by simp; omega) (by simp; omega)

/-- Groups behind others are printed with a colon in front of each. -/
theorem spellsGroups_flatMap (gs : List UInt16) :
    SpellsGroups false (gs.flatMap fun g => ':' :: groupChars g) gs false := by
  induction gs with
  | nil => exact .nil
  | cons g gs ih => exact .cons (spellsGroup_groupChars g) ih

theorem groupsChars_cons (g : UInt16) (gs : List UInt16) :
    groupsChars (g :: gs) = groupChars g ++ gs.flatMap fun g => ':' :: groupChars g := by
  induction gs generalizing g with
  | nil => simp [groupsChars]
  | cons h gs ih =>
    have hmore : groupsChars (g :: h :: gs) = groupChars g ++ ':' :: groupsChars (h :: gs) := by
      simp [groupsChars, List.intercalate]
    rw [hmore, ih h, List.flatMap_cons, List.cons_append]

theorem spellsGroups_groupsChars (gs : List UInt16) :
    SpellsGroups true (groupsChars gs) gs false := by
  cases gs with
  | nil => exact .nil
  | cons g gs =>
    rw [groupsChars_cons]
    exact @SpellsGroups.cons true _ _ _ _ _ (spellsGroup_groupChars g) (spellsGroups_flatMap gs)

/-- The run that is left out has zero groups only. -/
theorem length_longestZeroRun_le (gs : List UInt16) :
    (longestZeroRun gs).length ≤
      ((gs.drop (longestZeroRun gs).start).takeWhile (· == 0)).length := by
  rw [longestZeroRun]
  refine List.foldlRecOn (motive := fun run : Run =>
    run.length ≤ ((gs.drop run.start).takeWhile (· == 0)).length) _ _ (Nat.zero_le _) ?_
  intro best hbest start _
  dsimp only
  split
  · exact Nat.le_refl _
  · exact hbest

/-- Groups begin with as many zeros as the longest run of them in front has, and with fewer. -/
theorem eq_replicate_append_drop {gs : List UInt16} {n : Nat}
    (h : n ≤ (gs.takeWhile (· == 0)).length) : gs = List.replicate n 0 ++ gs.drop n := by
  induction n generalizing gs with
  | zero => rfl
  | succ n ih =>
    cases gs with
    | nil => exact absurd h (Nat.not_succ_le_zero n)
    | cons g gs =>
      by_cases hg : g = 0
      · rw [hg, List.takeWhile_cons_of_pos rfl, List.length_cons, Nat.succ_le_succ_iff] at h
        rw [hg, List.replicate_succ, List.drop_succ_cons, List.cons_append, ← ih h]
      · rw [List.takeWhile_cons_of_neg (by simpa using hg)] at h
        exact absurd h (Nat.not_succ_le_zero n)

/-- An address is made of the groups in front of a run of zeros and of those behind it. -/
theorem eq_ofEnds {ip : Ipv6} {start length : Nat}
    (hrun : length ≤ ((ip.groups.drop start).takeWhile (· == 0)).length) (hpos : 1 < length) :
    ∃ h : (ip.groups.take start).length + (ip.groups.drop (start + length)).length ≤ 7,
      ip = ofEnds (ip.groups.take start) (ip.groups.drop (start + length))
        (Nat.le_succ_of_le h) := by
  obtain ⟨gs, hgs⟩ := ip
  have hroom : length ≤ 8 - start := by
    have hle := (List.takeWhile_prefix (· == 0) (l := gs.drop start)).length_le
    rw [List.length_drop, hgs] at hle
    exact Nat.le_trans hrun hle
  have hfront : (gs.take start).length = start := by rw [List.length_take, hgs]; omega
  have hback : (gs.drop (start + length)).length = 8 - (start + length) := by
    rw [List.length_drop, hgs]
  refine ⟨by dsimp only; omega, ?_⟩
  have hzeros : 8 - (gs.take start).length - (gs.drop (start + length)).length = length := by omega
  simp only [ofEnds, hzeros, Ipv6.mk.injEq]
  calc gs = gs.take start ++ gs.drop start := (List.take_append_drop start gs).symm
    _ = gs.take start ++ (List.replicate length 0 ++ (gs.drop start).drop length) :=
      congrArg _ (eq_replicate_append_drop hrun)
    _ = gs.take start ++ List.replicate length 0 ++ gs.drop (start + length) := by
      rw [List.drop_drop, List.append_assoc]

theorem groups_ofGroups (high low : UInt16) : (Ipv4.ofGroups high low).groups = [high, low] := by
  have hjoin (g : UInt16) : UInt16.ofNat ((UInt8.ofNat (g.toNat / 256)).toNat * 256
      + (UInt8.ofNat (g.toNat % 256)).toNat) = g := by
    have hhigh : (UInt8.ofNat (g.toNat / 256)).toNat = g.toNat / 256 :=
      UInt8.toNat_ofNat_of_lt' (Nat.div_lt_of_lt_mul g.toNat_lt)
    have hlow : (UInt8.ofNat (g.toNat % 256)).toNat = g.toNat % 256 :=
      UInt8.toNat_ofNat_of_lt' (Nat.mod_lt _ (by decide))
    rw [hhigh, hlow, Nat.div_add_mod', UInt16.ofNat_toNat]
  simp only [Ipv4.groups, Ipv4.ofGroups, hjoin]

theorem exists_of_embedded? {v4 : Ipv4} (h : ip.embedded? = some v4) :
    ∃ high low, ip.groups = [0, 0, 0, 0, 0, 0xffff, high, low] ∧ v4 = Ipv4.ofGroups high low := by
  rw [embedded?] at h
  split at h
  · rename_i high low hgroups
    exact ⟨high, low, hgroups, (Option.some.inj h).symm⟩
  · cases h

/-- The form that shows an embedded address. -/
theorem spelled_embedded {high low : UInt16} (h : ip.groups = [0, 0, 0, 0, 0, 0xffff, high, low]) :
    Spelled ("::ffff:".toList ++ (Ipv4.ofGroups high low).chars) ip := by
  have hfour : SpellsGroup ['f', 'f', 'f', 'f'] 0xffff :=
    @spellsGroup_map_hexDigit [15, 15, 15, 15] (by decide) (by decide) (by decide)
  have hback := @SpellsGroups.cons true _ _ _ _ _ hfour (.octets (Ipv4.ofGroups high low))
  rw [groups_ofGroups] at hback
  have hlength : ([] : List UInt16).length + [0xffff, high, low].length ≤ 7 := by simp
  have hip : ip = ofEnds [] [0xffff, high, low] (Nat.le_succ_of_le hlength) := by
    cases ip
    simpa [ofEnds] using h
  rw [hip]
  exact .shortened .nil hback hlength

/-- **The printed form of an address is one of its texts.** -/
theorem spelled_chars (ip : Ipv6) : Spelled ip.chars ip := by
  rw [chars]
  cases hembedded : ip.embedded? with
  | some v4 =>
    obtain ⟨high, low, hgroups, rfl⟩ := exists_of_embedded? hembedded
    exact spelled_embedded hgroups
  | none =>
    dsimp only
    split
    · rename_i hpos
      obtain ⟨hlength, heq⟩ := eq_ofEnds (length_longestZeroRun_le ip.groups) hpos
      have hshort := Spelled.shortened
        (spellsGroups_groupsChars (ip.groups.take (longestZeroRun ip.groups).start))
        (spellsGroups_groupsChars (ip.groups.drop ((longestZeroRun ip.groups).start +
          (longestZeroRun ip.groups).length))) hlength
      rwa [← heq] at hshort
    · exact .full (spellsGroups_groupsChars ip.groups) ip.length_eq

end Ipv6

end RelationalCatalog
