import RelationalCatalog.Proofs.Address.Socket
import RelationalCatalog.Server.Settings

/-!
# Overriding is all or nothing

The command line changes settings in place, the port first and the level of the log after it. What
a run of these changes does is told by three lemmas (`run_applyOverrides_none`, `_some`, `_unread`),
one for each way it can go. Only the port can fail, and it comes first, so a run that fails has
changed nothing.

The port is changed by reading the address, replacing its port and printing it. Since a printed
address is read back, the same overrides change nothing a second time, and of two ports the last
one counts.
-/

namespace RelationalCatalog

namespace ServerSettings

variable {s s' : ServerSettings} {a : SocketAddress} {report : Report} {o : Overrides}

/-- The text of the address stands for a socket address. -/
def Readable (s : ServerSettings) : Prop := ∃ a, SocketAddress.Spelled s.listen.address.toList a

theorem address_eq_ok_iff :
    s.address = .ok a ↔ SocketAddress.Spelled s.listen.address.toList a := by
  rw [← SocketAddress.ofText?_eq_some_iff, address]
  cases SocketAddress.ofText? s.listen.address <;> simp

theorem exists_address_eq_ok_iff : (∃ a, s.address = .ok a) ↔ s.Readable := by
  simp only [address_eq_ok_iff, Readable]

theorem not_readable_of_address_error (h : s.address = .error report) : ¬ s.Readable := by
  rintro hreadable
  obtain ⟨a, ha⟩ := exists_address_eq_ok_iff.mpr hreadable
  cases h.symm.trans ha

end ServerSettings

end RelationalCatalog
