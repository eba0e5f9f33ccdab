import RemoteConsole.Proofs.Query.Reading
import RemoteConsole.Query.Source

/-!
# Payloads of Source servers

The layout of a payload with a server's information, and of one with its players. Whatever the
fields are, a payload is read back field by field, and what follows it does not matter
(`payloads_read_back`).
-/

namespace RemoteConsole.Query.Source

open Reading (Spells)

/-- A byte stands for a kind of server: three letters for one each, and any other byte for itself. -/
def ServerType.HasCode : ServerType → UInt8 → Prop
  | dedicated, b => b = 0x64
  | nonDedicated, b => b = 0x6C
  | sourceTv, b => b = 0x70
  | unknown code, b => b = code ∧ b ∉ [0x64, 0x6C, 0x70]

theorem ServerType.hasCode_ofByte (b : UInt8) : (ofByte b).HasCode b := by
  unfold ofByte
  split_ifs with hd hl hp
  · exact hd
  · exact hl
  · exact hp
  · refine ⟨rfl, fun h => ?_⟩
    simp only [List.mem_cons, List.not_mem_nil, or_false] at h
    rcases h with h | h | h
    · exact hd h
    · exact hl h
    · exact hp h

/-- A byte stands for an operating system, two letters for the same one. -/
def Environment.HasCode : Environment → UInt8 → Prop
  | linux, b => b = 0x6C
  | windows, b => b = 0x77
  | mac, b => b = 0x6D ∨ b = 0x6F
  | unknown code, b => b = code ∧ b ∉ [0x6C, 0x77, 0x6D, 0x6F]

theorem Environment.hasCode_ofByte (b : UInt8) : (ofByte b).HasCode b := by
  unfold ofByte
  split_ifs with hl hw hm
  · exact hl
  · exact hw
  · exact hm
  · refine ⟨rfl, fun h => ?_⟩
    simp only [List.mem_cons, List.not_mem_nil, or_false] at h
    rcases h with h | h | h
    · exact hl h
    · exact hw h
    · exact hm h

/-- The fields of a payload with a server's information, as they are sent. -/
structure Info.Fields where
  /-- The version of the protocol. -/
  protocol : UInt8
  /-- The server's name. -/
  name : String
  /-- The map. -/
  map : String
  /-- The folder of the game. -/
  folder : String
  /-- The game. -/
  game : String
  /-- The game's number. -/
  appId : Int16
  /-- The number of players. -/
  players : UInt8
  /-- The number of players there is room for. -/
  maxPlayers : UInt8
  /-- The number of players that are bots. -/
  bots : UInt8
  /-- The code of the kind of server. -/
  serverType : UInt8
  /-- The code of the operating system. -/
  environment : UInt8
  /-- Zero if no password is needed. -/
  locked : UInt8
  /-- Zero if cheaters are not banned. -/
  secured : UInt8

/-- The texts among the fields. -/
def Info.Fields.texts (f : Fields) : List String :=
  [f.name, f.map, f.folder, f.game]

/-- The payload with these fields. -/
def Info.Fields.bytes (f : Fields) : Bytes :=
  [f.protocol] ++ Bytes.ofText f.name ++ Bytes.ofText f.map ++ Bytes.ofText f.folder ++
    Bytes.ofText f.game ++ Bytes.ofInt16 f.appId ++
    [f.players, f.maxPlayers, f.bots, f.serverType, f.environment, f.locked, f.secured]

/-- The information that the fields stand for. -/
structure Info.Fields.Means (f : Fields) (info : Info) : Prop where
  protocol : info.protocol = f.protocol
  name : info.name = f.name
  map : info.map = f.map
  folder : info.folder = f.folder
  game : info.game = f.game
  appId : info.appId = f.appId
  players : info.players = f.players
  maxPlayers : info.maxPlayers = f.maxPlayers
  bots : info.bots = f.bots
  serverType : info.serverType.HasCode f.serverType
  environment : info.environment.HasCode f.environment
  isPrivate : info.isPrivate = true ↔ f.locked ≠ 0
  vacSecured : info.vacSecured = true ↔ f.secured ≠ 0

/-- The information read from the fields. -/
def Info.Fields.info (f : Fields) : Info where
  protocol := f.protocol
  name := f.name
  map := f.map
  folder := f.folder
  game := f.game
  appId := f.appId
  players := f.players
  maxPlayers := f.maxPlayers
  bots := f.bots
  serverType := .ofByte f.serverType
  environment := .ofByte f.environment
  isPrivate := f.locked != 0
  vacSecured := f.secured != 0

theorem Info.Fields.means_info (f : Fields) : f.Means f.info where
  protocol := rfl
  name := rfl
  map := rfl
  folder := rfl
  game := rfl
  appId := rfl
  players := rfl
  maxPlayers := rfl
  bots := rfl
  serverType := ServerType.hasCode_ofByte f.serverType
  environment := Environment.hasCode_ofByte f.environment
  isPrivate := bne_iff_ne
  vacSecured := bne_iff_ne

open Reading in
/-- Information takes its fields, one after the other. -/
theorem Info.spells_reading (f : Info.Fields) (free : ∀ s ∈ f.texts, '\x00' ∉ s.toList) :
    Spells Info.reading f.bytes f.info := by
  simp only [Fields.texts, List.forall_mem_cons] at free
  obtain ⟨hname, hmap, hfolder, hgame, -⟩ := free
  have hbytes : f.bytes = [f.protocol] ++ (Bytes.ofText f.name ++ (Bytes.ofText f.map ++
      (Bytes.ofText f.folder ++ (Bytes.ofText f.game ++ (Bytes.ofInt16 f.appId ++ ([f.players] ++
        ([f.maxPlayers] ++ ([f.bots] ++ ([f.serverType] ++ ([f.environment] ++ ([f.locked] ++
          [f.secured]))))))))))) := by
    simp [Fields.bytes]
  rw [hbytes]
  refine (spells_byte f.protocol).bind ?_
  refine (spells_ofText hname).bind ?_
  refine (spells_ofText hmap).bind ?_
  refine (spells_ofText hfolder).bind ?_
  refine (spells_ofText hgame).bind ?_
  refine (spells_int16 f.appId).bind ?_
  refine (spells_byte f.players).bind ?_
  refine (spells_byte f.maxPlayers).bind ?_
  refine (spells_byte f.bots).bind ?_
  refine (spells_byte f.serverType).bind ?_
  refine (spells_byte f.environment).bind ?_
  refine (spells_byte f.locked).bind ?_
  exact (spells_byte f.secured).bind_last (Spells.pure f.info)

/-- The bytes of a player. -/
def Player.bytes (p : Player) : Bytes :=
  [p.index] ++ Bytes.ofText p.name ++ Bytes.ofInt32 p.score ++ Bytes.ofUInt32 p.duration

/-- The payload with some players, whose number comes first. -/
def Player.payload (players : List Player) : Bytes :=
  UInt8.ofNat players.length :: players.flatMap Player.bytes

open Reading in
theorem Player.spells_reading (p : Player) (free : '\x00' ∉ p.name.toList) :
    Spells Player.reading p.bytes p := by
  have hbytes : p.bytes = [p.index] ++ (Bytes.ofText p.name ++ (Bytes.ofInt32 p.score ++
      Bytes.ofUInt32 p.duration)) := by
    simp [Player.bytes]
  rw [hbytes]
  refine (spells_byte p.index).bind ?_
  refine (spells_ofText free).bind ?_
  refine (spells_int32 p.score).bind ?_
  exact (spells_float32Bits p.duration).bind_last (Spells.pure p)

/-- As many players are read as there are to be. -/
theorem Player.spells_readingList (players : List Player)
    (free : ∀ p ∈ players, '\x00' ∉ p.name.toList) :
    Spells (readingList players.length) (players.flatMap Player.bytes) players := by
  induction players with
  | nil => exact Spells.pure []
  | cons p players ih =>
    obtain ⟨hp, hplayers⟩ := List.forall_mem_cons.mp free
    refine (spells_reading p hp).bind ?_
    exact (ih hplayers).bind_last (Spells.pure (p :: players))

theorem Player.spells_readingAll (players : List Player) (count : players.length ≤ 255)
    (free : ∀ p ∈ players, '\x00' ∉ p.name.toList) :
    Spells readingAll (payload players) players := by
  have hcount : (UInt8.ofNat players.length).toNat = players.length :=
    Text.Utf8.toNat_byte (by omega)
  refine (Reading.spells_byte (UInt8.ofNat players.length)).bind ?_
  rw [hcount]
  exact spells_readingList players free

/-- What a server sends is what is read. Its information has the fields of the payload, whatever
they are, with the kind of server and the operating system that their codes stand for. Its players
are those of the payload, in order, and nothing of the bits of a duration is lost. Texts are of any
length and in any script, and bytes that follow a payload are not looked at. -/
theorem payloads_read_back :
    (∀ (f : Info.Fields) (rest : Bytes), (∀ s ∈ f.texts, '\x00' ∉ s.toList) →
      ∃ info, Info.parse (f.bytes ++ rest) = .ok info ∧ f.Means info) ∧
    ∀ (players : List Player) (rest : Bytes), players.length ≤ 255 →
      (∀ p ∈ players, '\x00' ∉ p.name.toList) →
        Player.parseAll (Player.payload players ++ rest) = .ok players := by
  refine ⟨fun f rest free => ?_, fun players rest count free => ?_⟩
  · exact ⟨f.info, (Info.spells_reading f free).run rest, f.means_info⟩
  · exact (Player.spells_readingAll players count free).run rest

/-- Texts of characters of one to four bytes, an empty one, negative numbers, and a duration that is
no number. -/
theorem payloads_read_back_mixed :
    let f : Info.Fields := ⟨17, "Größe 😀", "", "csgo", "€", -730, 12, 24, 2, 0x70, 0x6F, 2, 0⟩
    let players : List Player := [⟨0, "", -3, 0x7FC00001⟩, ⟨255, "ボブ", 2147483647, 0⟩]
    (∃ info, Info.parse (f.bytes ++ [1, 2]) = .ok info ∧ info.name = "Größe 😀" ∧ info.map = "" ∧
      info.appId = -730 ∧ info.environment.HasCode 0x6F ∧ info.isPrivate = true ∧
        info.vacSecured = false) ∧
      Player.parseAll (Player.payload players ++ [0]) = .ok players := by
  intro f players
  obtain ⟨hinfo, hplayers⟩ := payloads_read_back
  obtain ⟨info, hparse, means⟩ := hinfo f [1, 2] (by decide)
  exact ⟨⟨info, hparse, means.name, means.map, means.appId, means.environment,
    means.isPrivate.mpr (by decide), Bool.eq_false_iff.mpr fun h => means.vacSecured.mp h rfl⟩,
    hplayers players [0] (by decide) (by decide)⟩

end RemoteConsole.Query.Source
