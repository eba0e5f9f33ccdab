import Mathlib.Data.List.Infix
import RemoteConsole.Address.Socket
import RemoteConsole.Proofs.Address.Ip

/-!
# The default port

An address gets the default port once: what it then is has a port, so nothing more is added to it,
and an IP address is the same as before (`withDefaultPort_keeps_host`). For an IP address this needs
that sockets are read back from their texts (`Socket.parse?_text`). For a name it needs that the
port never makes an IP address of it, which is so because there is only one colon then.
-/

namespace RemoteConsole.Address

open Scan

variable {a s : String} {cs rest : List Char} {ip : Ip}

/-! ## Sockets read back -/

namespace Socket

theorem scanPort_toDigits (port : UInt16) (h : NoDigit 10 rest) :
    scanPort (':' :: (Nat.toDigits 10 port.toNat ++ rest)) = some (port, rest) := by
  have hnumber : number 10 none true UInt16.size (Nat.toDigits 10 port.toNat ++ rest) =
      some (port.toNat, rest) :=
    number_toDigits (by decide) (by decide) port.toNat_lt (fun k hk => nomatch hk) h
  simp [scanPort, char, hnumber]

theorem scanScope_toDigits (scope : UInt32) (h : NoDigit 10 rest) :
    scanScope ('%' :: (Nat.toDigits 10 scope.toNat ++ rest)) = some (scope, rest) := by
  have hnumber : number 10 none true UInt32.size (Nat.toDigits 10 scope.toNat ++ rest) =
      some (scope.toNat, rest) :=
    number_toDigits (by decide) (by decide) scope.toNat_lt (fun k hk => nomatch hk) h
  simp [scanScope, char, hnumber]

theorem scanV4_text (ip : IPv4) (port : UInt16) :
    scanV4 (ip.text.toList ++ ':' :: Nat.toDigits 10 port.toNat) =
      some ({ ip := .v4 ip, port }, []) := by
  have hport := scanPort_toDigits port noDigit_nil
  rw [List.append_nil] at hport
  rw [scanV4, IPv4.scan_text ip (noDigit_cons.mpr rfl)]
  simp [hport]

/-- What a scope adds to the text of an IPv6 address. -/
def scopeText (scope : UInt32) : List Char :=
  if scope = 0 then [] else '%' :: Nat.toDigits 10 scope.toNat

theorem scanScope_text (scope : UInt32) :
    (scanScope (scopeText scope ++ ']' :: cs)).getD (0, scopeText scope ++ ']' :: cs) =
      (scope, ']' :: cs) := by
  rw [scopeText]
  split_ifs with hzero
  · rw [hzero]
    rfl
  · rw [List.cons_append, scanScope_toDigits scope (noDigit_cons.mpr rfl), Option.getD_some]

theorem toList_text_v4 (ip : IPv4) (port : UInt16) (scope : UInt32) :
    (text { ip := .v4 ip, port, scope }).toList =
      ip.text.toList ++ ':' :: Nat.toDigits 10 port.toNat := by
  simp [text]

theorem toList_text_v6 (ip : IPv6) (port : UInt16) (scope : UInt32) :
    (text { ip := .v6 ip, port, scope }).toList =
      '[' :: (ip.text.toList ++ (scopeText scope ++ ']' :: ':' :: Nat.toDigits 10 port.toNat)) := by
  rw [scopeText]
  split_ifs with hzero
  · simp [text, hzero]
  · simp [text, hzero]

theorem scanV6_text (ip : IPv6) (port : UInt16) (scope : UInt32) :
    scanV6 (text { ip := .v6 ip, port, scope }).toList =
      some ({ ip := .v6 ip, port, scope }, []) := by
  have hport := scanPort_toDigits port noDigit_nil
  rw [List.append_nil] at hport
  have hip (cs : List Char) : IPv6.scan (ip.text.toList ++ (scopeText scope ++ ']' :: cs)) =
      some (ip, scopeText scope ++ ']' :: cs) := by
    rw [scopeText]
    split_ifs
    · exact IPv6.scan_text ip (by simp [GroupEnd, digit?]) (by simp)
    · exact IPv6.scan_text ip (by simp [GroupEnd, digit?]) (by simp)
  rw [toList_text_v6, scanV6]
  simp [char, hip, scanScope_text, hport]

/-- A socket is read back from its text. Only an IPv6 address has a scope. -/
theorem parse?_text (socket : Socket) (h : socket.scope = 0 ∨ ∃ ip, socket.ip = .v6 ip) :
    parse? socket.text = some socket := by
  obtain ⟨ip, port, scope⟩ := socket
  rw [parse?, whole]
  cases ip with
  | v4 ip =>
    obtain rfl : scope = 0 := by
      refine h.resolve_right ?_
      rintro ⟨ip', hv6⟩
      cases hv6
    rw [toList_text_v4, scanV4_text]
    rfl
  | v6 ip =>
    have hnone : scanV4 (text { ip := .v6 ip, port, scope }).toList = none := by
      rw [toList_text_v6, scanV4, IPv4.scan_of_noDigit (noDigit_cons.mpr rfl)]
      rfl
    rw [hnone, scanV6_text]
    rfl

theorem bracket_of_scanV6 {socket : Socket} (h : scanV6 cs = some (socket, rest)) :
    ∃ cs', cs = '[' :: cs' := by
  obtain ⟨⟨_, cs'⟩, hbracket, -⟩ := Option.bind_eq_some_iff.mp h
  exact ⟨cs', char_eq_some_iff.mp hbracket⟩

end Socket

/-! ## IP addresses are no sockets -/

theorem Ip.scan_bracket : Ip.scan ('[' :: cs) = none := by
  have hdigit : NoDigit 16 ('[' :: cs) := noDigit_cons.mpr rfl
  have hgroups : IPv6.scanGroups true 8 ('[' :: cs) = ([], false, '[' :: cs) := by
    refine IPv6.scanGroups_nil (IPv4.scan_of_noDigit hdigit) ?_
    rw [separated_true, number_of_noDigit hdigit]
  rw [Ip.scan, IPv4.scan_of_noDigit hdigit, IPv6.scan, hgroups]
  rfl

/-- An IP address without a port is no socket. -/
theorem Socket.parse?_of_ip (h : Ip.parse? s = some ip) : Socket.parse? s = none := by
  have hscan := Ip.parse?_eq_some_iff.mp h
  have hv6 : scanV6 s.toList = none := by
    refine Option.eq_none_iff_forall_ne_some.mpr fun (socket, rest) hsocket => ?_
    obtain ⟨cs, hcs⟩ := bracket_of_scanV6 hsocket
    rw [hcs, Ip.scan_bracket] at hscan
    cases hscan
  have hv4 : scanV4 s.toList = none := by
    rw [Ip.scan] at hscan
    split at hscan
    · -- Nothing is left for a port.
      rename_i v4 rest hv4
      obtain ⟨-, rfl⟩ := Prod.mk.inj (Option.some.inj hscan)
      rw [scanV4, hv4]
      rfl
    · rename_i hv4
      rw [scanV4, hv4]
      rfl
  rw [parse?, whole, hv4, hv6]
  rfl

/-! ## Adding the default port -/

theorem contains_colon_iff : Text.contains s ":" = true ↔ ':' ∈ s.toList := by
  rw [Text.contains_iff]
  exact List.singleton_infix_iff ..

theorem withDefaultPort_of_socket {socket : Socket} (h : Socket.parse? a = some socket) :
    withDefaultPort a = a := by
  rw [withDefaultPort, h]
  rfl

theorem withDefaultPort_of_ip (h : Ip.parse? a = some ip) :
    withDefaultPort a = { ip, port := defaultPort : Socket }.text := by
  rw [withDefaultPort, Socket.parse?_of_ip h, h]
  rfl

theorem withDefaultPort_of_colon (hcolon : ':' ∈ a.toList) (h : Ip.parse? a = none) :
    withDefaultPort a = a := by
  rw [withDefaultPort, h]
  dsimp only
  rw [if_pos (contains_colon_iff.mpr hcolon), ite_self]

/-- A text without a colon is taken for a name. -/
theorem withDefaultPort_of_name (hcolon : ':' ∉ a.toList) (hsocket : Socket.parse? a = none)
    (hip : Ip.parse? a = none) : withDefaultPort a = a ++ ":27015" := by
  rw [withDefaultPort, hsocket, hip]
  dsimp only
  rw [if_neg (mt contains_colon_iff.mp hcolon)]
  exact String.append_assoc ..

/-- A name with a port is no IP address. -/
theorem Ip.parse?_append_port (hcolon : ':' ∉ a.toList) : Ip.parse? (a ++ ":27015") = none := by
  have hcount : (a ++ ":27015").toList.count ':' = 1 := by
    rw [String.toList_append, List.count_append, List.count_eq_zero_of_not_mem hcolon]
    rfl
  exact Option.eq_none_iff_forall_ne_some.mpr fun ip h => Ip.count_colon_ne_one h hcount

theorem parse?_withDefaultPort_of_ip (h : Ip.parse? a = some ip) :
    Socket.parse? (withDefaultPort a) = some { ip, port := defaultPort } := by
  rw [withDefaultPort_of_ip h]
  exact Socket.parse?_text _ (.inl rfl)

theorem withDefaultPort_idem (a : String) :
    withDefaultPort (withDefaultPort a) = withDefaultPort a := by
  rcases hsocket : Socket.parse? a with _ | socket
  · rcases hip : Ip.parse? a with _ | ip
    · by_cases hcolon : ':' ∈ a.toList
      · rw [withDefaultPort_of_colon hcolon hip, withDefaultPort_of_colon hcolon hip]
      · rw [withDefaultPort_of_name hcolon hsocket hip]
        exact withDefaultPort_of_colon (by simp) (Ip.parse?_append_port hcolon)
    · exact withDefaultPort_of_socket (parse?_withDefaultPort_of_ip hip)
  · rw [withDefaultPort_of_socket hsocket, withDefaultPort_of_socket hsocket]

/-- Adding the default port twice is adding it once. A text that is a socket, or has a colon without
being an IP address, stays as it is. An IP address without a port becomes the socket of the same
address with the default port. -/
theorem withDefaultPort_keeps_host (a : String) :
    withDefaultPort (withDefaultPort a) = withDefaultPort a ∧
    ((∃ socket, Socket.parse? a = some socket) ∨ ':' ∈ a.toList ∧ Ip.parse? a = none →
      withDefaultPort a = a) ∧
    ∀ ip, Ip.parse? a = some ip →
      Socket.parse? (withDefaultPort a) = some { ip, port := 27015 } := by
  refine ⟨withDefaultPort_idem a, ?_, fun ip => parse?_withDefaultPort_of_ip⟩
  rintro (⟨socket, hsocket⟩ | ⟨hcolon, hip⟩)
  · exact withDefaultPort_of_socket hsocket
  · exact withDefaultPort_of_colon hcolon hip

/-- A name with a port, a socket with a scope, and an IPv4 address mapped into an IPv6 address, which
is not written as it is shown. -/
theorem withDefaultPort_keeps_host_mapped :
    withDefaultPort "play.example.com:25575" = "play.example.com:25575" ∧
    withDefaultPort "[fe80::1%4]:25575" = "[fe80::1%4]:25575" ∧
    Socket.parse? (withDefaultPort "0::FFFF:127.0.0.1") =
      some { ip := .v6 ⟨[0, 0, 0, 0, 0, 0xFFFF, 0x7F00, 1], rfl⟩, port := 27015 } :=
  ⟨(withDefaultPort_keeps_host _).2.1 (.inr ⟨by decide, by decide⟩),
    (withDefaultPort_keeps_host _).2.1 (.inl (Option.isSome_iff_exists.mp (by decide))),
    (withDefaultPort_keeps_host _).2.2 _ (by decide)⟩

example : withDefaultPort "0:0:0:1:0:0:0:a" = "[::1:0:0:0:a]:27015" := by decide

end RemoteConsole.Address
