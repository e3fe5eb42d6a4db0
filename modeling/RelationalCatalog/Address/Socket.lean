import RelationalCatalog.Address.Ipv6

/-!
# Socket addresses

A socket address is an address and a port. An address of version 6 stands in brackets, with or
without the number of a scope. Ports and scopes may have leading zeros, but they are printed
without them, and a scope of zero is left out.
-/

namespace RelationalCatalog

/-- An address and a port. -/
inductive SocketAddress
  | v4 (ip : Ipv4) (port : UInt16)
  | v6 (ip : Ipv6) (scope : UInt32) (port : UInt16)
deriving DecidableEq

namespace SocketAddress

/-- The port of an address. -/
def port : SocketAddress → UInt16
  | v4 _ p => p
  | v6 _ _ p => p

/-- The same address with another port. -/
def withPort (p : UInt16) : SocketAddress → SocketAddress
  | v4 ip _ => v4 ip p
  | v6 ip scope _ => v6 ip scope p

/-- Reads the port behind a colon; nothing may follow it. -/
def portOf? (cs : List Char) : Option UInt16 := do
  let cs ← takeMark ':' cs
  match ← takeNumber 0xffff cs with
  | (n, []) => some (UInt16.ofNat n)
  | _ => none

/-- Reads the scope behind a percent sign, zero if there is none. -/
def takeScope (cs : List Char) : UInt32 × List Char :=
  match takeMark '%' cs >>= takeNumber 0xffffffff with
  | some (n, rest) => (UInt32.ofNat n, rest)
  | none => (0, cs)

/-- Reads an address. -/
def ofChars? (cs : List Char) : Option SocketAddress :=
  match cs with
  | '[' :: cs => do
    let (ip, cs) ← Ipv6.take cs
    let (scope, cs) := takeScope cs
    let port ← portOf? (← takeMark ']' cs)
    return v6 ip scope port
  | cs => do
    let (ip, cs) ← Ipv4.take cs
    return v4 ip (← portOf? cs)

/-- Reads the text of an address. -/
def ofText? (s : String) : Option SocketAddress := ofChars? s.toList

/-- The characters of an address. -/
def chars : SocketAddress → List Char
  | v4 ip p => ip.chars ++ ':' :: natDigits p.toNat
  | v6 ip scope p =>
    '[' :: (ip.chars ++ (if scope = 0 then [] else '%' :: natDigits scope.toNat)
      ++ ']' :: ':' :: natDigits p.toNat)

/-- The text of an address. -/
def render (a : SocketAddress) : String := String.ofList a.chars

@[simp] theorem port_withPort (p : UInt16) (a : SocketAddress) : (a.withPort p).port = p := by
  cases a <;> rfl

end SocketAddress

end RelationalCatalog
