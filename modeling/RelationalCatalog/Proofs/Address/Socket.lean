import RelationalCatalog.Address.Socket
import RelationalCatalog.Proofs.Address.Ipv6

/-!
# Which texts are socket addresses

`SocketAddress.Spelled` says which texts stand for a socket address, and the reader accepts these
and no others (`SocketAddress.ofText?_eq_some_iff`). An address has many texts, since an address of
eight groups has many and the numbers may have leading zeros. The printed one is among them, so it
is read back as the same address (`SocketAddress.ofText?_render`).
-/

namespace RelationalCatalog

namespace SocketAddress

/-- The texts that stand for a socket address. -/
inductive Spelled : List Char → SocketAddress → Prop
  /-- Four octets and a port. -/
  | octets (ip : Ipv4) {digits : List Char} {port : UInt16} (hport : Spells digits port.toNat) :
    Spelled (ip.chars ++ ':' :: digits) (v4 ip port)
  /-- Eight groups in brackets and a port. -/
  | groups {text digits : List Char} {ip : Ipv6} {port : UInt16} (hip : Ipv6.Spelled text ip)
    (hport : Spells digits port.toNat) :
    Spelled ('[' :: (text ++ ']' :: ':' :: digits)) (v6 ip 0 port)
  /-- Eight groups and a scope in brackets, and a port. -/
  | scopedGroups {text digits number : List Char} {ip : Ipv6} {scope : UInt32} {port : UInt16}
    (hip : Ipv6.Spelled text ip) (hscope : Spells number scope.toNat)
    (hport : Spells digits port.toNat) :
    Spelled ('[' :: (text ++ '%' :: (number ++ ']' :: ':' :: digits))) (v6 ip scope port)

variable {cs rest : List Char} {port : UInt16} {scope : UInt32} {a : SocketAddress}

/-! ## Reading -/

/-- A port is a colon and the digits that spell it. -/
theorem portOf?_eq_some_iff :
    portOf? cs = some port ↔ ∃ digits, cs = ':' :: digits ∧ Spells digits port.toNat := by
  constructor
  · intro h
    obtain ⟨behind, hmark, hport⟩ := Option.bind_eq_some_iff.mp h
    obtain ⟨⟨n, tail⟩, hread, hend⟩ := Option.bind_eq_some_iff.mp hport
    obtain ⟨digits, hbehind, hspells, hle, -⟩ := takeNumber_eq_some_iff.mp hread
    cases tail with
    | nil =>
      cases hend
      refine ⟨digits, ?_, ?_⟩
      · rw [takeMark_eq_some_iff.mp hmark, hbehind, List.append_nil]
      · rwa [UInt16.toNat_ofNat_of_lt' (Nat.lt_succ_of_le hle)]
    | cons c tail => cases hend
  · rintro ⟨digits, rfl, hspells⟩
    have hread : takeNumber 0xffff digits = some (port.toNat, []) :=
      takeNumber_eq_some_iff.mpr
        ⟨digits, (List.append_nil _).symm, hspells, Nat.le_of_lt_succ port.toNat_lt, leaves_nil⟩
    have hmark : takeMark ':' (':' :: digits) = some digits := takeMark_eq_some_iff.mpr rfl
    simp only [portOf?, hmark, Option.bind_eq_bind, Option.bind_some, hread, UInt16.ofNat_toNat]

theorem takeScope_of_bracket (rest : List Char) : takeScope (']' :: rest) = (0, ']' :: rest) := rfl

theorem takeScope_of_percent {number : List Char} (h : Spells number scope.toNat) :
    takeScope ('%' :: (number ++ ']' :: rest)) = (scope, ']' :: rest) := by
  have hread : takeNumber 0xffffffff (number ++ ']' :: rest) = some (scope.toNat, ']' :: rest) :=
    takeNumber_eq_some_iff.mpr
      ⟨number, rfl, h, Nat.le_of_lt_succ scope.toNat_lt, leaves_cons (by decide) rest⟩
  have hmark : takeMark '%' ('%' :: (number ++ ']' :: rest)) = some (number ++ ']' :: rest) :=
    takeMark_eq_some_iff.mpr rfl
  simp only [takeScope, hmark, Option.bind_eq_bind, Option.bind_some, hread, UInt32.ofNat_toNat]

/-- A scope is taken with its percent sign, or nothing is taken and the scope is zero. -/
theorem takeScope_eq (h : takeScope cs = (scope, rest)) :
    (scope = 0 ∧ cs = rest) ∨
      ∃ number, cs = '%' :: (number ++ rest) ∧ Spells number scope.toNat := by
  rw [takeScope] at h
  split at h
  · rename_i n tail hread
    obtain ⟨behind, hmark, hnumber⟩ := Option.bind_eq_some_iff.mp hread
    obtain ⟨number, rfl, hspells, hle, -⟩ := takeNumber_eq_some_iff.mp hnumber
    cases h
    refine .inr ⟨number, takeMark_eq_some_iff.mp hmark, ?_⟩
    rwa [UInt32.toNat_ofNat_of_lt' (Nat.lt_succ_of_le hle)]
  · cases h
    exact .inl ⟨rfl, rfl⟩

/-- Behind a bracket, an address of eight groups is looked for. -/
theorem ofChars?_bracket (cs : List Char) :
    ofChars? ('[' :: cs) =
      (Ipv6.take cs).bind fun r =>
        (takeMark ']' (takeScope r.2).2).bind fun cs =>
          (portOf? cs).bind fun port => some (v6 r.1 (takeScope r.2).1 port) := rfl

/-- Without a bracket, an address of four octets is looked for. -/
theorem ofChars?_of_ne_bracket (h : ∀ rest, cs ≠ '[' :: rest) :
    ofChars? cs =
      (Ipv4.take cs).bind fun r => (portOf? r.2).bind fun port => some (v4 r.1 port) := by
  rw [ofChars?]
  · rfl
  · exact h

/-- All texts for an address are read as that address. -/
theorem ofChars?_of_spelled (h : Spelled cs a) : ofChars? cs = some a := by
  have hport {digits : List Char} {port : UInt16} (h : Spells digits port.toNat) :
      portOf? (':' :: digits) = some port := portOf?_eq_some_iff.mpr ⟨digits, rfl, h⟩
  have hmark (rest : List Char) : takeMark ']' (']' :: rest) = some rest :=
    takeMark_eq_some_iff.mpr rfl
  cases h with
  | octets ip hspells =>
    have hbracket (tail rest : List Char) : ip.chars ++ tail ≠ '[' :: rest := by
      obtain ⟨d, ds, hds, hd⟩ := exists_natDigits_eq_cons ip.a.toNat
      intro heq
      rw [Ipv4.chars, hds] at heq
      rw [(List.cons.inj heq).1] at hd
      exact absurd hd (by decide)
    rw [ofChars?_of_ne_bracket (hbracket _),
      Ipv4.take_eq_some_iff.mpr ⟨rfl, leaves_cons (by decide : Char.isDigit ':' = false) _⟩]
    simp only [Option.bind_some, hport hspells]
  | groups hip hspells =>
    rw [ofChars?_bracket, Ipv6.take_append hip (.bracket _)]
    simp only [Option.bind_some, takeScope_of_bracket, hmark, hport hspells]
  | scopedGroups hip hscope hspells =>
    rw [ofChars?_bracket, Ipv6.take_append hip (.percent _)]
    simp only [Option.bind_some, takeScope_of_percent hscope, hmark, hport hspells]

/-- What is read as an address is a text for it. -/
theorem spelled_of_ofChars? (h : ofChars? cs = some a) : Spelled cs a := by
  by_cases hbracket : ∃ rest, cs = '[' :: rest
  · obtain ⟨inner, rfl⟩ := hbracket
    rw [ofChars?_bracket] at h
    obtain ⟨⟨ip, rest⟩, htake, h⟩ := Option.bind_eq_some_iff.mp h
    obtain ⟨behind, hclose, h⟩ := Option.bind_eq_some_iff.mp h
    obtain ⟨port, hread, h⟩ := Option.bind_eq_some_iff.mp h
    cases h
    obtain ⟨text, rfl, hip⟩ := Ipv6.exists_of_take htake
    obtain ⟨digits, rfl, hport⟩ := portOf?_eq_some_iff.mp hread
    dsimp only at hclose ⊢
    have hrest := takeMark_eq_some_iff.mp hclose
    obtain ⟨scope, tail, hscope⟩ : ∃ scope tail, takeScope rest = (scope, tail) := ⟨_, _, rfl⟩
    rw [hscope] at hrest ⊢
    dsimp only at hrest ⊢
    obtain ⟨rfl, rfl⟩ | ⟨number, rfl, hnumber⟩ := takeScope_eq hscope
    · rw [hrest]
      exact .groups hip hport
    · rw [hrest]
      exact .scopedGroups hip hnumber hport
  · rw [ofChars?_of_ne_bracket (not_exists.mp hbracket)] at h
    obtain ⟨⟨ip, rest⟩, htake, h⟩ := Option.bind_eq_some_iff.mp h
    obtain ⟨port, hread, h⟩ := Option.bind_eq_some_iff.mp h
    cases h
    obtain ⟨rfl, -⟩ := Ipv4.take_eq_some_iff.mp htake
    obtain ⟨digits, rfl, hport⟩ := portOf?_eq_some_iff.mp hread
    exact .octets ip hport

/-- **A text is read as an address if and only if it stands for that address.** -/
theorem ofText?_eq_some_iff {s : String} : ofText? s = some a ↔ Spelled s.toList a :=
  ⟨spelled_of_ofChars?, ofChars?_of_spelled⟩

/-- A text stands for one address at most. -/
theorem Spelled.unique {b : SocketAddress} (ha : Spelled cs a) (hb : Spelled cs b) : a = b :=
  Option.some.inj ((ofChars?_of_spelled ha).symm.trans (ofChars?_of_spelled hb))

/-! ## Printing -/

/-- The printed form of an address is one of its texts. -/
theorem spelled_chars (a : SocketAddress) : Spelled a.chars a := by
  cases a with
  | v4 ip port => exact .octets ip (spells_natDigits port.toNat)
  | v6 ip scope port =>
    have hip := Ipv6.spelled_chars ip
    have hport := spells_natDigits port.toNat
    rw [chars]
    split
    · rename_i hzero
      rw [hzero, List.append_nil]
      exact .groups hip hport
    · rw [List.append_assoc, List.cons_append]
      exact .scopedGroups hip (spells_natDigits scope.toNat) hport

theorem spelled_render (a : SocketAddress) : Spelled a.render.toList a := by
  rw [render, String.toList_ofList]
  exact spelled_chars a

/-- **A printed address is read back.** -/
theorem ofText?_render (a : SocketAddress) : ofText? a.render = some a :=
  ofText?_eq_some_iff.mpr (spelled_render a)

end SocketAddress

end RelationalCatalog
