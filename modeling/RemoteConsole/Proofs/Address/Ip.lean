import Mathlib.Data.List.TakeWhile
import RemoteConsole.Address.Ip
import RemoteConsole.Proofs.Address.Scan

/-!
# IP addresses read back

The text of an IP address is scanned as that address (`IPv4.scan_text`, `IPv6.scan_text`), whatever
form an IPv6 address is shown in: with all its groups, without a run of zeros, or with an IPv4
address mapped into it. In the other direction, a text with a single colon is no IP address
(`Ip.count_colon_ne_one`): an IPv4 address has none, and each group of an IPv6 address but the first
comes after one, unless two colons stand for the groups that are left out.
-/

namespace RemoteConsole.Address

open Scan

variable {start length limit : Nat} {first isEmbedded : Bool} {cs cs' rest : List Char}
  {group : UInt16} {groups front back : List UInt16} {s : String}

@[simp] theorem toString_string (s : String) : toString s = s :=
  rfl

/-! ## IPv4 addresses -/

@[simp] theorem IPv4.octet_false_cons : octet false ('.' :: cs) = octet true cs := by
  simp [octet]

theorem IPv4.octet_toDigits (n : UInt8) (h : NoDigit 10 rest) :
    octet true (Nat.toDigits 10 n.toNat ++ rest) = some (n, rest) := by
  have hlt : n.toNat < 256 := n.toNat_lt
  have hdigits : ∀ k ∈ some 3, 0 < k ∧ n.toNat < 10 ^ k := by
    rintro k ⟨⟩
    exact ⟨by decide, by omega⟩
  rw [octet, separated_true, number_toDigits (by decide) (by decide) hlt hdigits h]
  simp

theorem IPv4.toList_text (ip : IPv4) : ip.text.toList =
    Nat.toDigits 10 ip.a.toNat ++ '.' :: (Nat.toDigits 10 ip.b.toNat ++ '.' ::
      (Nat.toDigits 10 ip.c.toNat ++ '.' :: Nat.toDigits 10 ip.d.toNat)) := by
  simp [text]

/-- An IPv4 address is scanned as it was written. -/
theorem IPv4.scan_text (ip : IPv4) (h : NoDigit 10 rest) :
    IPv4.scan (ip.text.toList ++ rest) = some (ip, rest) := by
  have hdot (cs : List Char) : NoDigit 10 ('.' :: cs) := noDigit_cons.mpr rfl
  rw [toList_text]
  simp only [IPv4.scan, List.append_assoc, List.cons_append, octet_toDigits _ (hdot _),
    octet_false_cons, octet_toDigits _ h, Option.bind_eq_bind, Option.bind_some]
  rfl

/-- After the digits of the first number there is a dot. -/
theorem IPv4.scan_eq_none (h : (digits 10 cs).2.head? ≠ some '.') : IPv4.scan cs = none := by
  refine Option.eq_none_iff_forall_ne_some.mpr fun (ip, rest) hscan => ?_
  obtain ⟨⟨a, afterA⟩, ha, hscan⟩ := Option.bind_eq_some_iff.mp hscan
  obtain ⟨⟨b, afterB⟩, hb, -⟩ := Option.bind_eq_some_iff.mp hscan
  obtain ⟨⟨n, afterA⟩, hn, ⟨⟩⟩ := Option.map_eq_some_iff.mp ha
  obtain ⟨⟨m, afterM⟩, hm, -⟩ := Option.map_eq_some_iff.mp hb
  obtain ⟨⟨u, afterDot⟩, hdot, -⟩ := Option.bind_eq_some_iff.mp hm
  rw [← rest_of_number hn, char_eq_some_iff.mp hdot] at h
  exact h rfl

theorem IPv4.takes_octet : Takes (octet first) fun c => digit? 10 c ≠ none ∨ c = '.' := by
  intro cs n rest h
  obtain ⟨⟨m, rest⟩, hm, ⟨⟩⟩ := Option.map_eq_some_iff.mp h
  exact (takes_number.mono fun _ => .inl).separated (.inr rfl) cs m _ hm

/-- An IPv4 address has digits and dots. -/
theorem IPv4.takes_scan : Takes IPv4.scan fun c => digit? 10 c ≠ none ∨ c = '.' :=
  takes_octet.bind fun _ => takes_octet.bind fun _ => takes_octet.bind fun _ =>
    takes_octet.bind fun _ => takes_pure _

theorem IPv4.colon_notMem_of_scan {ip : IPv4} (h : IPv4.scan cs = some (ip, [])) : ':' ∉ cs := by
  obtain ⟨used, rfl, hused⟩ := IPv4.takes_scan cs ip [] h
  intro hcolon
  rw [List.append_nil] at hcolon
  exact absurd (hused ':' hcolon) (by decide)

/-! ## What ends a group -/

/-- A text does not go on with a character of a group or of an IPv4 address. -/
def GroupEnd (rest : List Char) : Prop :=
  ∀ c ∈ rest.head?, digit? 16 c = none ∧ c ≠ '.'

/-- A text does not go on with a colon and a group. -/
def NoGroup (rest : List Char) : Prop :=
  ∀ cs, rest = ':' :: cs → NoDigit 16 cs

theorem groupEnd_nil : GroupEnd [] :=
  fun _ hc => nomatch hc

theorem groupEnd_colon : GroupEnd (':' :: cs) := by
  rintro c ⟨⟩
  exact ⟨rfl, by decide⟩

theorem GroupEnd.noDigit (h : GroupEnd rest) : NoDigit 16 rest :=
  fun c hc => (h c hc).1

/-- A text that does not go on with a colon does not go on with a group. -/
theorem noGroup_of_head?_ne (h : rest.head? ≠ some ':') : NoGroup rest := by
  rintro cs rfl
  exact absurd rfl h

theorem noGroup_colons : NoGroup (':' :: ':' :: cs) := by
  rintro _ ⟨⟩
  exact noDigit_cons.mpr rfl

theorem IPv4.scan_of_noDigit (h : NoDigit 16 cs) : IPv4.scan cs = none := by
  have hoctet : octet true cs = none := by
    rw [octet, separated_true, number_of_noDigit (h.of_le (by decide)), Option.map_none]
  rw [IPv4.scan, hoctet]
  rfl

/-- A group of an IPv6 address is no start of an IPv4 address, even if all its digits are decimal
ones. -/
theorem IPv4.scan_toDigits (n : Nat) (h : GroupEnd rest) :
    IPv4.scan (Nat.toDigits 16 n ++ rest) = none := by
  obtain ⟨ds, -, hds, hwritten, -, -⟩ := Text.exists_digits (by decide : 1 < 16) n
  refine scan_eq_none ?_
  rw [hwritten]
  clear hwritten
  induction ds with
  | nil =>
    rw [List.map_nil, List.nil_append, digits_of_noDigit (h.noDigit.of_le (by decide))]
    exact fun hdot => (h '.' hdot).2 rfl
  | cons d ds ih =>
    obtain ⟨hd, hds⟩ := List.forall_mem_cons.mp hds
    rw [List.map_cons, List.cons_append, digits]
    split
    · -- A letter ends the decimal digits.
      have letters : ∀ d < 16, some (Nat.digitChar d) ≠ some '.' := by decide
      exact letters d hd
    · exact ih hds

/-! ## Groups -/

namespace IPv6

theorem number_toDigits (group : UInt16) (h : NoDigit 16 rest) :
    number 16 (some 4) true 65536 (Nat.toDigits 16 group.toNat ++ rest) =
      some (group.toNat, rest) := by
  have hlt : group.toNat < 65536 := group.toNat_lt
  have hdigits : ∀ k ∈ some 4, 0 < k ∧ group.toNat < 16 ^ k := by
    rintro k ⟨⟩
    exact ⟨by decide, by omega⟩
  exact Scan.number_toDigits (by decide) (by decide) hlt hdigits h

theorem scanGroups_nil (hfour : separated first ':' IPv4.scan cs = none)
    (hsix : separated first ':' (number 16 (some 4) true 65536) cs = none) :
    scanGroups first limit cs = ([], false, cs) := by
  cases limit with
  | zero => rfl
  | succ limit => simp [scanGroups, hfour, hsix]

theorem scanGroups_cons (hfour : separated first ':' IPv4.scan cs = none)
    (hsix : separated first ':' (number 16 (some 4) true 65536) cs = some (group.toNat, rest)) :
    scanGroups first (limit + 1) cs =
      (group :: (scanGroups false limit rest).1, (scanGroups false limit rest).2) := by
  simp [scanGroups, hfour, hsix]

/-- An IPv4 address ends the groups. -/
theorem scanGroups_embedded (ip : IPv4) (h : NoDigit 10 rest) :
    scanGroups false (limit + 2) (':' :: (ip.text.toList ++ rest)) = (ip.groups, true, rest) := by
  rw [scanGroups, if_neg (Nat.succ_ne_zero limit), separated_false_cons, IPv4.scan_text ip h]

/-- Groups, each with a colon in front. -/
def colonGroups (groups : List UInt16) : List Char :=
  groups.flatMap fun group => ':' :: Nat.toDigits 16 group.toNat

@[simp] theorem colonGroups_nil : colonGroups [] = [] :=
  rfl

@[simp] theorem colonGroups_cons :
    colonGroups (group :: groups) = ':' :: (Nat.toDigits 16 group.toNat ++ colonGroups groups) :=
  rfl

theorem groupEnd_colonGroups (h : GroupEnd rest) : GroupEnd (colonGroups groups ++ rest) := by
  cases groups with
  | nil => exact h
  | cons group groups => exact groupEnd_colon

theorem toList_groupsText_cons : (groupsText (group :: groups)).toList =
    Nat.toDigits 16 group.toNat ++ colonGroups groups := by
  have htexts : List.map String.toList ((group :: groups).map fun group =>
      String.ofList (Nat.toDigits 16 group.toNat)) =
        (group :: groups).map fun group => Nat.toDigits 16 group.toNat := by
    simp
  rw [groupsText, String.toList_intercalate, htexts]
  clear htexts
  induction groups generalizing group with
  | nil => simp
  | cons next groups ih =>
    have hcolon : ":".toList = [':'] := rfl
    have hmore := @ih next
    rw [List.map_cons] at hmore
    rw [List.map_cons, List.map_cons, List.intercalate_cons_cons, hmore, colonGroups_cons, hcolon,
      List.append_assoc, List.singleton_append]

theorem scanGroups_colonGroups (hlimit : groups.length ≤ limit) (hend : GroupEnd rest)
    (hgroup : NoGroup rest) :
    scanGroups false limit (colonGroups groups ++ rest) = (groups, false, rest) := by
  induction groups generalizing limit with
  | nil =>
    refine scanGroups_nil (separated_false_eq_none fun cs hcs => ?_)
      (separated_false_eq_none fun cs hcs => number_of_noDigit (hgroup cs hcs))
    exact IPv4.scan_of_noDigit (hgroup cs hcs)
  | cons group groups ih =>
    cases limit with
    | zero => exact absurd hlimit (Nat.not_succ_le_zero _)
    | succ limit =>
      have hnext : GroupEnd (colonGroups groups ++ rest) := groupEnd_colonGroups hend
      rw [colonGroups_cons, List.cons_append, List.append_assoc, scanGroups_cons,
        ih (Nat.le_of_succ_le_succ hlimit)]
      · rw [separated_false_cons, IPv4.scan_toDigits _ hnext]
      · rw [separated_false_cons, number_toDigits _ hnext.noDigit]

/-- Groups are scanned as they were written, up to where they end. -/
theorem scanGroups_groupsText (hlimit : groups.length ≤ limit) (hend : GroupEnd rest)
    (hgroup : NoGroup rest) :
    scanGroups true limit ((groupsText groups).toList ++ rest) = (groups, false, rest) := by
  cases groups with
  | nil =>
    exact scanGroups_nil (IPv4.scan_of_noDigit hend.noDigit) (number_of_noDigit hend.noDigit)
  | cons group groups =>
    cases limit with
    | zero => exact absurd hlimit (Nat.not_succ_le_zero _)
    | succ limit =>
      have hnext : GroupEnd (colonGroups groups ++ rest) := groupEnd_colonGroups hend
      rw [toList_groupsText_cons, List.append_assoc, scanGroups_cons,
        scanGroups_colonGroups (Nat.le_of_succ_le_succ hlimit) hend hgroup]
      · rw [separated_true, IPv4.scan_toDigits _ hnext]
      · rw [separated_true, number_toDigits _ hnext.noDigit]

theorem scan_groupsText_eq_none (hend : GroupEnd rest) :
    IPv4.scan ((groupsText groups).toList ++ rest) = none := by
  cases groups with
  | nil => exact IPv4.scan_of_noDigit hend.noDigit
  | cons group groups =>
    rw [toList_groupsText_cons, List.append_assoc]
    exact IPv4.scan_toDigits _ (groupEnd_colonGroups hend)

/-! ## Runs of zeros -/

theorem take_zeroRun (groups : List UInt16) :
    groups.take (zeroRun groups) = List.replicate (zeroRun groups) 0 := by
  have hprefix : groups.takeWhile (· == 0) <+: groups := List.takeWhile_prefix _
  rw [zeroRun, ← List.prefix_iff_eq_take.mp hprefix, List.eq_replicate_iff]
  refine ⟨rfl, fun group hgroup => ?_⟩
  have hzero := List.mem_takeWhile_imp hgroup
  exact eq_of_beq hzero

/-- A run of zeros is found where it is. -/
theorem eq_append_of_longestZeroRun (h : longestZeroRun groups = (start, length)) :
    groups = groups.take start ++ List.replicate length 0 ++ groups.drop (start + length) := by
  induction groups generalizing start length with
  | nil =>
    obtain ⟨rfl, rfl⟩ := Prod.mk.inj h
    rfl
  | cons group groups ih =>
    rw [longestZeroRun] at h
    dsimp only at h
    split_ifs at h
    · obtain ⟨rfl, rfl⟩ := Prod.mk.inj h
      rw [Nat.zero_add, ← take_zeroRun]
      simp
    · obtain ⟨rfl, rfl⟩ := Prod.mk.inj h
      rw [Nat.add_right_comm, List.drop_succ_cons, List.take_succ_cons, List.cons_append,
        List.cons_append]
      exact congrArg (group :: ·) (ih rfl)

/-- A run of zeros ends in the groups that it was found in. -/
theorem add_le_of_longestZeroRun (h : longestZeroRun groups = (start, length))
    (hpos : 0 < length) : start + length ≤ groups.length := by
  have hlength := congrArg List.length (eq_append_of_longestZeroRun h)
  simp only [List.length_append, List.length_take, List.length_replicate, List.length_drop]
    at hlength
  omega

/-! ## IPv6 addresses -/

theorem ofParts?_eq_some {ip : IPv6}
    (h : front ++ List.replicate (8 - front.length - back.length) 0 ++ back = ip.groups) :
    ofParts? front back = some ip := by
  obtain ⟨groups, hlength⟩ := ip
  subst h
  rw [ofParts?, dif_pos hlength]

/-- A group is made of its two halves. -/
theorem ofNat_halves (group : UInt16) :
    UInt16.ofNat ((UInt8.ofNat (group.toNat / 256)).toNat * 256 +
      (UInt8.ofNat (group.toNat % 256)).toNat) = group := by
  have hlt : group.toNat < 65536 := group.toNat_lt
  rw [UInt8.toNat_ofNat', UInt8.toNat_ofNat']
  have hsum : group.toNat / 256 % 2 ^ 8 * 256 + group.toNat % 256 % 2 ^ 8 = group.toNat := by omega
  rw [hsum, UInt16.ofNat_toNat]

theorem groups_of_mapped? {ip : IPv6} {v4 : IPv4} (h : ip.mapped? = some v4) :
    ip.groups = [0, 0, 0, 0, 0, 0xFFFF] ++ v4.groups := by
  rw [mapped?] at h
  split at h
  · rename_i hi lo hgroups
    cases h
    rw [hgroups, IPv4.groups, ofNat_halves, ofNat_halves]
    rfl
  · cases h

/-- The text of the groups of an IPv4 address that is mapped into an IPv6 address. -/
theorem scanGroups_mapped (ip : IPv4) (h : NoDigit 10 rest) :
    scanGroups true 7 ("ffff:".toList ++ (ip.text.toList ++ rest)) =
      (0xFFFF :: ip.groups, true, rest) := by
  have hwritten : "ffff:".toList = Nat.toDigits 16 (0xFFFF : UInt16).toNat ++ [':'] := by decide
  rw [hwritten, List.append_assoc, List.singleton_append, scanGroups_cons,
    scanGroups_embedded ip h]
  · rw [separated_true, IPv4.scan_toDigits _ groupEnd_colon]
  · rw [separated_true, number_toDigits _ groupEnd_colon.noDigit]

/-- An address is scanned from all its groups. -/
theorem scan_of_groups {ip : IPv6} (h : scanGroups true 8 cs = (ip.groups, isEmbedded, rest)) :
    IPv6.scan cs = some (ip, rest) := by
  have hparts : ofParts? ip.groups [] = some ip := by
    refine ofParts?_eq_some ?_
    rw [ip.length_eq]
    simp
  rw [IPv6.scan, h]
  dsimp only
  rw [if_pos ip.length_eq, hparts]
  rfl

/-- An address is scanned from its groups before and after two colons. -/
theorem scan_of_parts {ip : IPv6} (hlength : front.length ≠ 8)
    (hfront : scanGroups true 8 cs = (front, false, ':' :: ':' :: cs'))
    (hback : scanGroups true (7 - front.length) cs' = (back, isEmbedded, rest))
    (hgroups : front ++ List.replicate (8 - front.length - back.length) 0 ++ back = ip.groups) :
    IPv6.scan cs = some (ip, rest) := by
  rw [IPv6.scan, hfront]
  dsimp only
  rw [if_neg hlength]
  simp [char, hback, ofParts?_eq_some hgroups]

theorem scan_of_mapped {ip : IPv6} {v4 : IPv4} (h : ip.mapped? = some v4) (hend : NoDigit 10 rest) :
    IPv6.scan (("::ffff:" ++ v4.text).toList ++ rest) = some (ip, rest) := by
  have hwritten : "::ffff:".toList = (groupsText []).toList ++ ':' :: ':' :: "ffff:".toList := rfl
  rw [String.toList_append, hwritten, List.append_assoc, List.append_assoc, List.cons_append,
    List.cons_append]
  exact scan_of_parts (by decide)
    (scanGroups_groupsText (Nat.zero_le 8) groupEnd_colon noGroup_colons)
    (scanGroups_mapped v4 hend) (groups_of_mapped? h).symm

/-- The groups around a run of zeros are enough to scan an address. -/
theorem scan_of_longestZeroRun {ip : IPv6} (h : longestZeroRun ip.groups = (start, length))
    (hpos : 0 < length) (hend : GroupEnd rest) (hgroup : NoGroup rest) :
    IPv6.scan ((groupsText (ip.groups.take start) ++ "::" ++
      groupsText (ip.groups.drop (start + length))).toList ++ rest) = some (ip, rest) := by
  have hin := add_le_of_longestZeroRun h hpos
  rw [ip.length_eq] at hin
  have hfront : (ip.groups.take start).length = start := by
    rw [List.length_take, ip.length_eq, Nat.min_eq_left (by omega)]
  have hback : (ip.groups.drop (start + length)).length = 8 - (start + length) := by
    rw [List.length_drop, ip.length_eq]
  have hleft : 8 - start - (8 - (start + length)) = length := by omega
  rw [String.toList_append, String.toList_append, List.append_assoc, List.append_assoc]
  refine scan_of_parts (by omega)
    (scanGroups_groupsText (by omega) groupEnd_colon noGroup_colons)
    (scanGroups_groupsText (by omega) hend hgroup) ?_
  rw [hfront, hback, hleft]
  exact (eq_append_of_longestZeroRun h).symm

/-- An IPv6 address is scanned as it was written. -/
theorem scan_text (ip : IPv6) (hend : GroupEnd rest) (hcolon : rest.head? ≠ some ':') :
    IPv6.scan (ip.text.toList ++ rest) = some (ip, rest) := by
  have hgroup : NoGroup rest := noGroup_of_head?_ne hcolon
  rw [text]
  split
  · rename_i v4 hmapped
    exact scan_of_mapped hmapped (hend.noDigit.of_le (by decide))
  · rcases hrun : longestZeroRun ip.groups with ⟨start, length⟩
    dsimp only
    split_ifs with hshort
    · exact scan_of_groups (scanGroups_groupsText ip.length_eq.le hend hgroup)
    · exact scan_of_longestZeroRun hrun (by omega) hend hgroup

/-! ## Colons -/

/-- Each group but the first comes after a colon, and so does an IPv4 address, which makes two of
the groups. -/
theorem length_le_of_scanGroups (h : scanGroups first limit cs = (groups, isEmbedded, rest)) :
    ∃ used, cs = used ++ rest ∧
      groups.length ≤ used.count ':' + first.toNat + isEmbedded.toNat := by
  induction limit generalizing first cs groups with
  | zero =>
    cases h
    exact ⟨[], rfl, Nat.zero_le _⟩
  | succ limit ih =>
    rw [scanGroups] at h
    dsimp only at h
    split at h
    · rename_i ip rest' hembedded
      cases h
      -- Two groups, which come after a colon unless they are the first.
      split_ifs at hembedded
      obtain ⟨used, hcs, hcount⟩ := one_le_count_of_separated IPv4.takes_scan hembedded
      exact ⟨used, hcs, Nat.succ_le_succ hcount⟩
    · split at h
      · cases h
        exact ⟨[], rfl, Nat.zero_le _⟩
      · rename_i n cs' hgroup
        cases h
        obtain ⟨used, rfl, hcount⟩ := one_le_count_of_separated takes_number hgroup
        obtain ⟨used', hcs', hcount'⟩ := @ih false cs' _ rfl
        refine ⟨used ++ used', ?_, ?_⟩
        · rw [List.append_assoc, ← hcs']
        · rw [List.length_cons, List.count_append]
          rw [Bool.toNat_false] at hcount'
          omega

/-- An IPv6 address has two colons at least. -/
theorem two_le_count_of_scan {ip : IPv6} (h : IPv6.scan cs = some (ip, rest)) :
    ∃ used, cs = used ++ rest ∧ 2 ≤ used.count ':' := by
  rcases hfront : scanGroups true 8 cs with ⟨front, isEmbedded, cs'⟩
  obtain ⟨used, rfl, hcount⟩ := length_le_of_scanGroups hfront
  rw [IPv6.scan, hfront] at h
  dsimp only at h
  split_ifs at h with hfull hembedded
  · -- Between eight groups there are six colons at least.
    obtain ⟨ip, -, ⟨⟩⟩ := Option.bind_eq_some_iff.mp h
    have hone : isEmbedded.toNat ≤ 1 := Bool.toNat_le isEmbedded
    have htrue : true.toNat = 1 := rfl
    exact ⟨used, rfl, by omega⟩
  · simp at h
  · -- Fewer groups come with two colons for the others.
    obtain ⟨⟨_, after⟩, hcolon, hafter⟩ := Option.bind_eq_some_iff.mp h
    obtain ⟨⟨_, after'⟩, hcolon', hparts⟩ := Option.bind_eq_some_iff.mp hafter
    obtain rfl : cs' = ':' :: after := char_eq_some_iff.mp hcolon
    obtain rfl : after = ':' :: after' := char_eq_some_iff.mp hcolon'
    rcases hback : scanGroups true (7 - front.length) after' with ⟨back, _, rest'⟩
    obtain ⟨used', rfl, -⟩ := length_le_of_scanGroups hback
    dsimp only at hparts
    rw [hback] at hparts
    obtain ⟨ip, -, ⟨⟩⟩ := Option.bind_eq_some_iff.mp hparts
    refine ⟨used ++ ':' :: ':' :: used', by simp, ?_⟩
    simp only [List.count_append, List.count_cons_self]
    omega

end IPv6

/-! ## Addresses of either kind -/

theorem IPv4.parse?_text (ip : IPv4) : Ip.parse? ip.text = some (.v4 ip) := by
  have hscan := IPv4.scan_text ip noDigit_nil
  rw [List.append_nil] at hscan
  rw [Ip.parse?, whole, Ip.scan, hscan]

theorem IPv6.scan_text_eq_none (ip : IPv6) (hend : GroupEnd rest) :
    IPv4.scan (ip.text.toList ++ rest) = none := by
  rw [text]
  split
  · rw [String.toList_append]
    exact IPv4.scan_of_noDigit (noDigit_cons.mpr rfl)
  · dsimp only
    split_ifs
    · exact scan_groupsText_eq_none hend
    · rw [String.toList_append, String.toList_append, List.append_assoc, List.append_assoc]
      exact scan_groupsText_eq_none groupEnd_colon

theorem IPv6.parse?_text (ip : IPv6) : Ip.parse? ip.text = some (.v6 ip) := by
  have hscan := IPv6.scan_text ip groupEnd_nil (by decide)
  have hnone := IPv6.scan_text_eq_none ip groupEnd_nil
  rw [List.append_nil] at hscan hnone
  rw [Ip.parse?, whole, Ip.scan, hnone, hscan]
  rfl

namespace Ip

theorem parse?_eq_some_iff {ip : Ip} :
    Ip.parse? s = some ip ↔ Ip.scan s.toList = some (ip, []) := by
  rw [Ip.parse?, whole]
  split
  · rename_i ip' hscan
    simp [hscan]
  · rename_i hscan
    exact ⟨nofun, fun h => absurd h (hscan ip)⟩

/-- A text with a single colon is no IP address. -/
theorem count_colon_ne_one {ip : Ip} (h : Ip.parse? s = some ip) : s.toList.count ':' ≠ 1 := by
  have hscan := parse?_eq_some_iff.mp h
  rw [Ip.scan] at hscan
  split at hscan
  · rename_i v4 rest hv4
    obtain ⟨-, rfl⟩ := Prod.mk.inj (Option.some.inj hscan)
    rw [List.count_eq_zero_of_not_mem (IPv4.colon_notMem_of_scan hv4)]
    exact Nat.zero_ne_one
  · obtain ⟨⟨v6, rest⟩, hv6, hrest⟩ := Option.map_eq_some_iff.mp hscan
    obtain ⟨-, rfl⟩ := Prod.mk.inj hrest
    obtain ⟨used, hs, hcount⟩ := IPv6.two_le_count_of_scan hv6
    rw [hs, List.append_nil]
    exact Nat.ne_of_gt hcount

end Ip

end RemoteConsole.Address
