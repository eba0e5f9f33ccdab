import RemoteConsole.Proofs.Text.Decimal
import RemoteConsole.Query.Minecraft

/-!
# What the values of a status say

Which information some keys with their values describe, and when they describe any. A key may be
given more than once, and its last value counts (`Last`); the three numbers are decimal, in range,
with or without blanks around them. Everything else about the list of keys is of no account: two
lists that agree key by key describe the same (`ofValues_congr`), as lists with the same pairs in
another order or with other unknown keys do.
-/

namespace RemoteConsole.Query.Minecraft

variable {pairs pairs' : List (String × String)} {key value : String} {players : List String}
  {info : Info} {n bound : Nat}

/-- A value is the last one given for a key. -/
def Last (pairs : List (String × String)) (key value : String) : Prop :=
  ∃ before after, pairs = before ++ (key, value) :: after ∧ key ∉ after.map Prod.fst

/-- A number is what the last value for a key says, after trimming. -/
def LastNumber (pairs : List (String × String)) (key : String) (bound n : Nat) : Prop :=
  ∃ value, Last pairs key value ∧ Text.Writes (Text.trim value) n ∧ n < bound

/-- The keys that a status must have. -/
def requiredKeys : List String :=
  ["hostname", "gametype", "game_id", "version", "map", "numplayers", "maxplayers", "hostport",
    "hostip"]

/-- The keys whose values are numbers, and their ranges. -/
def numberKeys : List (String × Nat) :=
  [("numplayers", 2 ^ 32), ("maxplayers", 2 ^ 32), ("hostport", 2 ^ 16)]

/-- The keys that are looked at. -/
def knownKeys : List String :=
  "plugins" :: requiredKeys

/-- Every key is there that must be, and the last value of each number is one. -/
structure Complete (pairs : List (String × String)) : Prop where
  required : ∀ key ∈ requiredKeys, key ∈ pairs.map Prod.fst
  numbers : ∀ p ∈ numberKeys, ∃ n, LastNumber pairs p.1 p.2 n

/-- The information that some keys with their values, and some players, stand for. -/
structure Describes (pairs : List (String × String)) (players : List String) (info : Info) :
    Prop where
  motd : Last pairs "hostname" info.motd
  gameType : Last pairs "gametype" info.gameType
  gameId : Last pairs "game_id" info.gameId
  version : Last pairs "version" info.version
  plugins : Last pairs "plugins" info.plugins ∨
    "plugins" ∉ pairs.map Prod.fst ∧ info.plugins = ""
  map : Last pairs "map" info.map
  numPlayers : LastNumber pairs "numplayers" (2 ^ 32) info.numPlayers
  maxPlayers : LastNumber pairs "maxplayers" (2 ^ 32) info.maxPlayers
  hostPort : LastNumber pairs "hostport" (2 ^ 16) info.hostPort
  hostIp : Last pairs "hostip" info.hostIp
  players : info.players = players

/-! ## Looking up a key -/

theorem lookup?_eq_some_iff : lookup? pairs key = some value ↔ Last pairs key value := by
  rw [lookup?, Option.map_eq_some_iff]
  constructor
  · rintro ⟨⟨key', value'⟩, hfind, rfl⟩
    obtain ⟨hkey, after, before, hpairs, hafter⟩ := List.find?_eq_some_iff_append.mp hfind
    obtain rfl : key' = key := beq_iff_eq.mp hkey
    refine ⟨before.reverse, after.reverse, ?_, ?_⟩
    · rw [← List.reverse_reverse pairs, hpairs]
      simp
    · rw [List.map_reverse, List.mem_reverse]
      rintro hmem
      obtain ⟨p, hp, hpkey⟩ := List.mem_map.mp hmem
      have := hafter p hp
      simp [hpkey] at this
  · rintro ⟨before, after, rfl, hafter⟩
    refine ⟨(key, value), ?_, rfl⟩
    rw [List.find?_eq_some_iff_append]
    refine ⟨beq_self_eq_true key, after.reverse, before.reverse, by simp, fun p hp => ?_⟩
    have hne : p.1 ≠ key := fun h =>
      hafter (List.mem_map.mpr ⟨p, List.mem_reverse.mp hp, h⟩)
    simp [hne]

theorem lookup?_eq_none_iff : lookup? pairs key = none ↔ key ∉ pairs.map Prod.fst := by
  rw [lookup?, Option.map_eq_none_iff, List.find?_eq_none, List.mem_map]
  constructor
  · rintro h ⟨p, hp, rfl⟩
    exact h p (List.mem_reverse.mpr hp) (beq_self_eq_true p.1)
  · intro h p hp hkey
    exact h ⟨p, List.mem_reverse.mp hp, beq_iff_eq.mp hkey⟩

/-- A key that is there has a last value. -/
theorem exists_last (h : key ∈ pairs.map Prod.fst) : ∃ value, Last pairs key value := by
  cases hlookup : lookup? pairs key with
  | none => exact absurd h (lookup?_eq_none_iff.mp hlookup)
  | some value => exact ⟨value, lookup?_eq_some_iff.mp hlookup⟩

/-- A key that may be left out stands for no text then. -/
theorem lookup?_getD_eq_iff : (lookup? pairs key).getD "" = value ↔
    Last pairs key value ∨ key ∉ pairs.map Prod.fst ∧ value = "" := by
  rw [← lookup?_eq_some_iff, ← lookup?_eq_none_iff]
  cases lookup? pairs key <;> simp [eq_comm]

theorem require_eq_ok_iff : require pairs key = .ok value ↔ Last pairs key value := by
  rw [← lookup?_eq_some_iff, require]
  cases lookup? pairs key <;> simp

theorem number_eq_ok_iff : number bound value = .ok n ↔
    Text.Writes (Text.trim value) n ∧ n < bound := by
  rw [← Text.natural?_eq_some_iff, number]
  cases Text.natural? bound (Text.trim value) <;> simp

/-! ## From values to information -/

/-- Two computations one after the other have a result if both have. -/
theorem bind_eq_ok_iff {α β : Type} {x : Except Error α} {f : α → Except Error β} {b : β} :
    x >>= f = .ok b ↔ ∃ a, x = .ok a ∧ f a = .ok b := by
  cases x with
  | error e => exact ⟨nofun, fun ⟨_, h, _⟩ => nomatch h⟩
  | ok a => exact ⟨fun h => ⟨a, rfl, h⟩, fun ⟨_, h, hb⟩ => by cases h; exact hb⟩

/-- The information in some values is what they describe. -/
theorem ofValues_eq_ok_iff : Info.ofValues pairs players = .ok info ↔
    Describes pairs players info := by
  unfold Info.ofValues
  simp only [bind_eq_ok_iff, require_eq_ok_iff, number_eq_ok_iff]
  constructor
  · rintro ⟨motd, hmotd, gameType, hgameType, gameId, hgameId, version, hversion, map, hmap,
      numPlayers', hnumPlayers', numPlayers, hnumPlayers, maxPlayers', hmaxPlayers', maxPlayers,
      hmaxPlayers, hostPort', hhostPort', hostPort, hhostPort, hostIp, hhostIp, hinfo⟩
    obtain rfl := Except.ok.inj hinfo
    exact {
      motd := hmotd
      gameType := hgameType
      gameId := hgameId
      version := hversion
      plugins := lookup?_getD_eq_iff.mp rfl
      map := hmap
      numPlayers := ⟨numPlayers', hnumPlayers', hnumPlayers⟩
      maxPlayers := ⟨maxPlayers', hmaxPlayers', hmaxPlayers⟩
      hostPort := ⟨hostPort', hhostPort', hhostPort⟩
      hostIp := hhostIp
      players := rfl }
  · intro h
    obtain ⟨numPlayers', hnumPlayers', hnumPlayers⟩ := h.numPlayers
    obtain ⟨maxPlayers', hmaxPlayers', hmaxPlayers⟩ := h.maxPlayers
    obtain ⟨hostPort', hhostPort', hhostPort⟩ := h.hostPort
    refine ⟨info.motd, h.motd, info.gameType, h.gameType, info.gameId, h.gameId, info.version,
      h.version, info.map, h.map, numPlayers', hnumPlayers', info.numPlayers, hnumPlayers,
      maxPlayers', hmaxPlayers', info.maxPlayers, hmaxPlayers, hostPort', hhostPort',
      info.hostPort, hhostPort, info.hostIp, h.hostIp, ?_⟩
    rw [lookup?_getD_eq_iff.mpr h.plugins, ← h.players]
    rfl

/-- Values that describe anything are complete, and the other way around. -/
theorem exists_describes_iff (players : List String) :
    (∃ info, Describes pairs players info) ↔ Complete pairs := by
  have hmem {key value : String} (h : Last pairs key value) : key ∈ pairs.map Prod.fst := by
    obtain ⟨before, after, rfl, -⟩ := h
    simp
  constructor
  · rintro ⟨info, h⟩
    obtain ⟨numPlayers, hnumPlayers, -⟩ := h.numPlayers
    obtain ⟨maxPlayers, hmaxPlayers, -⟩ := h.maxPlayers
    obtain ⟨hostPort, hhostPort, -⟩ := h.hostPort
    constructor
    · simp only [requiredKeys, List.forall_mem_cons]
      exact ⟨hmem h.motd, hmem h.gameType, hmem h.gameId, hmem h.version, hmem h.map,
        hmem hnumPlayers, hmem hmaxPlayers, hmem hhostPort, hmem h.hostIp, nofun⟩
    · simp only [numberKeys, List.forall_mem_cons]
      exact ⟨⟨_, h.numPlayers⟩, ⟨_, h.maxPlayers⟩, ⟨_, h.hostPort⟩, nofun⟩
  · intro h
    have value (key : String) (hkey : key ∈ requiredKeys) : ∃ value, Last pairs key value :=
      exists_last (h.required key hkey)
    obtain ⟨motd, hmotd⟩ := value "hostname" (by decide)
    obtain ⟨gameType, hgameType⟩ := value "gametype" (by decide)
    obtain ⟨gameId, hgameId⟩ := value "game_id" (by decide)
    obtain ⟨version, hversion⟩ := value "version" (by decide)
    obtain ⟨map, hmap⟩ := value "map" (by decide)
    obtain ⟨hostIp, hhostIp⟩ := value "hostip" (by decide)
    obtain ⟨numPlayers, hnumPlayers⟩ := h.numbers ("numplayers", 2 ^ 32) (by decide)
    obtain ⟨maxPlayers, hmaxPlayers⟩ := h.numbers ("maxplayers", 2 ^ 32) (by decide)
    obtain ⟨hostPort, hhostPort⟩ := h.numbers ("hostport", 2 ^ 16) (by decide)
    exact ⟨{ motd, gameType, gameId, version, plugins := (lookup? pairs "plugins").getD "", map
             numPlayers, maxPlayers, hostPort, hostIp, players },
      hmotd, hgameType, hgameId, hversion, lookup?_getD_eq_iff.mp rfl, hmap, hnumPlayers,
      hmaxPlayers, hhostPort, hhostIp, rfl⟩

/-! ## How values fail -/

/-- Where there is no result, a breach of the format is the reason. -/
def FailsMalformed {α : Type} (x : Except Error α) : Prop :=
  ∀ e, x = .error e → ∃ cause, e = .malformedPacket cause

theorem FailsMalformed.bind {α β : Type} {x : Except Error α} {f : α → Except Error β}
    (first : FailsMalformed x) (second : ∀ a, FailsMalformed (f a)) : FailsMalformed (x >>= f) := by
  intro e h
  cases x with
  | error e' => exact first e (congrArg Except.error (Except.error.inj h))
  | ok a => exact second a e h

theorem failsMalformed_require (pairs : List (String × String)) (key : String) :
    FailsMalformed (require pairs key) := by
  rintro e h
  rw [require] at h
  cases hlookup : lookup? pairs key with
  | some value => rw [hlookup] at h; cases h
  | none => rw [hlookup] at h; cases h; exact ⟨_, rfl⟩

theorem failsMalformed_number (bound : Nat) (value : String) :
    FailsMalformed (number bound value) := by
  rintro e h
  rw [number] at h
  cases hnatural : Text.natural? bound (Text.trim value) with
  | some n => rw [hnatural] at h; cases h
  | none => rw [hnatural] at h; cases h; exact ⟨_, rfl⟩

theorem failsMalformed_ofValues (pairs : List (String × String)) (players : List String) :
    FailsMalformed (Info.ofValues pairs players) := by
  refine (failsMalformed_require pairs _).bind fun _ => ?_
  refine (failsMalformed_require pairs _).bind fun _ => ?_
  refine (failsMalformed_require pairs _).bind fun _ => ?_
  refine (failsMalformed_require pairs _).bind fun _ => ?_
  refine (failsMalformed_require pairs _).bind fun _ => ?_
  refine (failsMalformed_require pairs _).bind fun _ => ?_
  refine (failsMalformed_number _ _).bind fun _ => ?_
  refine (failsMalformed_require pairs _).bind fun _ => ?_
  refine (failsMalformed_number _ _).bind fun _ => ?_
  refine (failsMalformed_require pairs _).bind fun _ => ?_
  refine (failsMalformed_number _ _).bind fun _ => ?_
  exact (failsMalformed_require pairs _).bind fun _ _ h => nomatch h

/-- Values that are not complete are malformed. -/
theorem ofValues_of_not_complete (players : List String) (h : ¬ Complete pairs) :
    ∃ cause, Info.ofValues pairs players = .error (.malformedPacket cause) := by
  cases hvalues : Info.ofValues pairs players with
  | ok info =>
    have describes : Describes pairs players info := ofValues_eq_ok_iff.mp hvalues
    exact absurd ((exists_describes_iff players).mp ⟨info, describes⟩) h
  | error e =>
    obtain ⟨cause, rfl⟩ := failsMalformed_ofValues pairs players e hvalues
    exact ⟨cause, rfl⟩

/-! ## What does not matter -/

/-- Lists that agree in each key that is looked at are the same information, or the same error. -/
theorem ofValues_congr (players : List String)
    (h : ∀ key ∈ knownKeys, lookup? pairs' key = lookup? pairs key) :
    Info.ofValues pairs' players = Info.ofValues pairs players := by
  have hrequire (key : String) (hkey : key ∈ knownKeys) :
      require pairs' key = require pairs key := by
    rw [require, require, h key hkey]
  unfold Info.ofValues
  rw [hrequire "hostname" (by decide), hrequire "gametype" (by decide),
    hrequire "game_id" (by decide), hrequire "version" (by decide), h "plugins" (by decide),
    hrequire "map" (by decide), hrequire "numplayers" (by decide),
    hrequire "maxplayers" (by decide), hrequire "hostport" (by decide),
    hrequire "hostip" (by decide)]

/-- Where no key is given twice, each pair counts. -/
theorem last_iff_mem (distinct : (pairs.map Prod.fst).Nodup) :
    Last pairs key value ↔ (key, value) ∈ pairs := by
  constructor
  · rintro ⟨before, after, rfl, -⟩
    exact List.mem_append_right before List.mem_cons_self
  · intro h
    obtain ⟨before, after, rfl⟩ := List.append_of_mem h
    rw [List.map_append, List.map_cons] at distinct
    exact ⟨before, after, rfl, (List.nodup_cons.mp (List.nodup_append.mp distinct).2.1).1⟩

theorem lookup?_of_perm (distinct : (pairs.map Prod.fst).Nodup) (h : pairs'.Perm pairs) :
    lookup? pairs' key = lookup? pairs key := by
  have distinct' : (pairs'.map Prod.fst).Nodup := (h.map Prod.fst).nodup_iff.mpr distinct
  ext value
  rw [lookup?_eq_some_iff, lookup?_eq_some_iff, last_iff_mem distinct, last_iff_mem distinct',
    h.mem_iff]

/-- The pairs whose keys are looked at. -/
def known (pairs : List (String × String)) : List (String × String) :=
  pairs.filter fun p => p.1 ∈ knownKeys

theorem lookup?_known (hkey : key ∈ knownKeys) : lookup? (known pairs) key = lookup? pairs key := by
  rw [lookup?, lookup?, known, ← List.filter_reverse, List.find?_filter]
  congr 2
  funext p
  by_cases hp : p.1 = key <;> simp [hp, hkey]

theorem ofValues_of_perm (players : List String) (distinct : (pairs.map Prod.fst).Nodup)
    (h : pairs'.Perm pairs) : Info.ofValues pairs' players = Info.ofValues pairs players :=
  ofValues_congr players fun _ _ => lookup?_of_perm distinct h

theorem ofValues_of_known_eq (players : List String) (h : known pairs' = known pairs) :
    Info.ofValues pairs' players = Info.ofValues pairs players :=
  ofValues_congr players fun key hkey => by
    rw [← lookup?_known hkey, h, lookup?_known hkey]

end RemoteConsole.Query.Minecraft
