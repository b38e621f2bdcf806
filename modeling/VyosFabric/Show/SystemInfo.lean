import VyosFabric.Interaction.Answers
import VyosFabric.Interaction.LastWrite
import VyosFabric.Model.Text
import VyosFabric.Pages.Dhcp
import VyosFabric.Show.Storage

/-!
# The system page

Four operational commands tell what a device is and how it does. Each parser walks over the lines of
one text and keeps what a line says of a field, so the last line that speaks of a field decides it,
wherever it stands and whatever stands between (`Tells`).

Every command is best effort: what cannot be read is empty, and takes nothing else with it
(`getSystemInfo_told`).
-/

namespace VyosFabric

open Interaction Tabular

/-- The floating-point operations of the page. -/
structure SystemFloats (F : Type) extends Floats F where
  /-- `(used as f64 / total as f64) * 100.0`. -/
  percent : ℕ → ℕ → F

/-- CPU load over 1, 5 and 15 minutes, as percentages. -/
structure LoadAverage (F : Type) where
  one : Option F
  five : Option F
  fifteen : Option F
  deriving DecidableEq, Repr

/-- Memory totals, normalized to bytes. -/
structure MemoryInfo (F : Type) where
  totalBytes : Option ℕ
  usedBytes : Option ℕ
  freeBytes : Option ℕ
  usedPct : Option F
  deriving DecidableEq, Repr

/-- What `show version` says. -/
structure VersionInfo where
  version : Option String
  releaseTrain : Option String
  builtOn : Option String
  hardwareVendor : Option String
  hardwareModel : Option String
  deriving DecidableEq, Repr

structure DeviceSystemInfo (F : Type) where
  version : VersionInfo
  uptime : Option String
  load : LoadAverage F
  memory : MemoryInfo F
  storage : List (StorageMount F)
  /-- Raw command outputs, by command. -/
  raw : List (String × String)
  deriving DecidableEq, Repr

variable {F : Type} (fl : SystemFloats F)

/-! ### Parsers -/

/-- A `Key: value` line with something on both sides. -/
def versionLine (line : List Char) : Option (String × String) :=
  (keyValue line).filter fun kv ↦ kv.1 ≠ "" ∧ kv.2 ≠ ""

/-- The entries of `show version`, as the map that the lines fill one after the other. -/
def versionMap (ls : List (List Char)) : String → Option String :=
  written (fun _ ↦ none) ((ls.filterMap versionLine).map fun kv ↦ (kv.1, some kv.2))

/-- The version without `VyOS `. -/
def plainVersion (v : String) : String :=
  let l := v.toList
  trim (String.ofList
    (((stripPrefix "VyOS ".toList l).or (stripPrefix "vyos ".toList l)).getD l))

def parseVersion : Option String → VersionInfo
  | none => ⟨none, none, none, none, none⟩
  | some text =>
    let get := versionMap (lines text.toList)
    { version := (get "version").map plainVersion
      releaseTrain := get "release train"
      builtOn := get "built on"
      hardwareVendor := get "hardware vendor"
      hardwareModel := get "hardware model" }

/-- Extract the numeric percentage after the colon, tolerating a trailing `%`. -/
def parsePct (line : List Char) : Option F := do
  let (_, after) ← splitOnce ':' line
  let after := strip isWhitespace ((strip isWhitespace after).rdropWhile fun c ↦ c == '%')
  fl.parse (String.ofList after)

/-- The text after the colon. -/
def uptimeText (line : List Char) : Option String :=
  trimmed ((splitOnce ':' line).map fun x ↦ String.ofList x.2)

/-- One line of `parse_uptime`. -/
def uptimeStep (st : Option String × LoadAverage F) (line : List Char) :
    Option String × LoadAverage F :=
  let lower := (strip isWhitespace line).map Char.toLower
  if "uptime".toList.isPrefixOf lower then (uptimeText line, st.2)
  else if "1 minute".toList.isPrefixOf lower then (st.1, { st.2 with one := parsePct fl line })
  else if "5 minute".toList.isPrefixOf lower then (st.1, { st.2 with five := parsePct fl line })
  else if "15 minute".toList.isPrefixOf lower then
    (st.1, { st.2 with fifteen := parsePct fl line })
  else st

def parseUptime : Option String → Option String × LoadAverage F
  | none => (none, ⟨none, none, none⟩)
  | some text => (lines text.toList).foldl (uptimeStep fl) (none, ⟨none, none, none⟩)

/-- One line of `parse_memory`. -/
def memoryStep (mem : MemoryInfo F) (line : List Char) : MemoryInfo F :=
  match keyValue line with
  | none => mem
  | some (key, val) =>
    if key = "total" then { mem with totalBytes := parseSize fl.toFloats val }
    else if key = "used" then { mem with usedBytes := parseSize fl.toFloats val }
    else if key = "free" then { mem with freeBytes := parseSize fl.toFloats val }
    else mem

/-- The percentage, if there is something to divide by. -/
def MemoryInfo.withPct (mem : MemoryInfo F) : MemoryInfo F :=
  match mem.totalBytes, mem.usedBytes with
  | some total, some used => if 0 < total then { mem with usedPct := some (fl.percent used total) }
    else mem
  | _, _ => mem

def parseMemory : Option String → MemoryInfo F
  | none => ⟨none, none, none, none⟩
  | some text =>
    ((lines text.toList).foldl (memoryStep fl) ⟨none, none, none, none⟩).withPct fl

/-! ### The handler -/

/-- Its text payload, or nothing on any failure. -/
def textOf : Except Fault Json → Option String
  | .ok resp => if resp.succeeded then (resp.idx "data").asStr else none
  | .error _ => none

/-- `show_text`. -/
def showText (client : VyosClient) (path : Path) : FabricHandler (Option String) := do
  let reply ← result (client.show path)
  return textOf reply

/-- The raw outputs by command, in the order of their names. -/
def rawTexts (version uptime memory storage : Option String) : List (String × String) :=
  [("memory", memory), ("storage", storage), ("uptime", uptime), ("version", version)].map fun x ↦
    (x.1, x.2.getD "<none>")

/-- The commands are independent reads, each on its own. -/
def getSystemInfo (claims : Claims) (id : Uuid) (debug : Bool) :
    FabricHandler (DeviceSystemInfo F) := do
  let client ← (fetchClient claims id).lift
  let version ← showText client ["version"]
  let uptime ← showText client ["system", "uptime"]
  let memory ← showText client ["system", "memory"]
  let storage ← showText client ["system", "storage"]
  let (up, load) := parseUptime fl uptime
  return {
    version := parseVersion version
    uptime := up
    load := load
    memory := parseMemory fl memory
    storage := parseStorage fl.toFloats storage
    raw := if debug then rawTexts version uptime memory storage else [] }

/-! ### What the texts tell -/

def linesOf : Option String → List (List Char)
  | none => []
  | some text => lines text.toList

/-- What the lines of a text say last of each thing; a text leaves no choice there (`tells_iff`). -/
def Tells {κ β : Type} (speaks : List Char → κ → β → Prop) (text : Option String)
    (told : κ → Option β) : Prop :=
  ∀ k, LastSays speaks (linesOf text) k (told k)

/-- An entry of `show version`, with something on both sides. -/
def VersionSays (line : List Char) (key val : String) : Prop :=
  HasKey line key val ∧ key ≠ "" ∧ val ≠ ""

inductive UptimeField where
  | uptime
  | one
  | five
  | fifteen
  deriving DecidableEq, Repr

/-- How the line of a field begins. -/
def UptimeField.opening : UptimeField → String
  | uptime => "uptime"
  | one => "1 minute"
  | five => "5 minute"
  | fifteen => "15 minute"

/-- A line of `show system uptime` is the line of a field. -/
def UptimeSays (line : List Char) (field : UptimeField) (told : List Char) : Prop :=
  told = line ∧ field.opening.toList <+: (strip isWhitespace line).map Char.toLower

/-- The field that a line of `show system uptime` belongs to. -/
def uptimeLine (line : List Char) : Option (UptimeField × List Char) :=
  let lower := (strip isWhitespace line).map Char.toLower
  if "uptime".toList.isPrefixOf lower then some (.uptime, line)
  else if "1 minute".toList.isPrefixOf lower then some (.one, line)
  else if "5 minute".toList.isPrefixOf lower then some (.five, line)
  else if "15 minute".toList.isPrefixOf lower then some (.fifteen, line)
  else none

section Told

variable {κ β : Type} [DecidableEq κ] {about : List Char → Option (κ × β)}
  {speaks : List Char → κ → β → Prop} {fl}

theorem tells_iff (habout : ∀ line k b, about line = some (k, b) ↔ speaks line k b)
    {text : Option String} {told : κ → Option β} :
    Tells speaks text told ↔ told = lastSaid about (linesOf text) := by
  rw [funext_iff]
  exact forall_congr' fun k ↦ lastSays_iff habout

theorem versionLine_iff (line : List Char) (key val : String) :
    versionLine line = some (key, val) ↔ VersionSays line key val := by
  rw [versionLine, Option.filter_eq_some_iff, keyValue_eq_some_iff, decide_eq_true_eq]
  rfl

/-- No line has two openings. -/
theorem UptimeSays.field_eq {line told told' : List Char} {f g : UptimeField}
    (hf : UptimeSays line f told) (hg : UptimeSays line g told') : f = g := by
  have hapart : ∀ f g : UptimeField, f.opening.toList <+: g.opening.toList → f = g := by
    intro f g
    cases f <;> cases g <;> decide
  rcases List.prefix_or_prefix_of_prefix hf.2 hg.2 with h | h
  · exact hapart f g h
  · exact (hapart g f h).symm

theorem uptimeLine_iff (line : List Char) (f : UptimeField) (told : List Char) :
    uptimeLine line = some (f, told) ↔ UptimeSays line f told := by
  have hsome : ∀ {g l}, uptimeLine line = some (g, l) → UptimeSays line g l := by
    intro g l h
    simp only [uptimeLine, List.isPrefixOf_iff_prefix] at h
    split_ifs at h with h₁ h₂ h₃ h₄ <;> obtain ⟨rfl, rfl⟩ := Prod.mk.inj (Option.some.inj h)
    · exact ⟨rfl, h₁⟩
    · exact ⟨rfl, h₂⟩
    · exact ⟨rfl, h₃⟩
    · exact ⟨rfl, h₄⟩
  refine ⟨hsome, fun h ↦ ?_⟩
  cases hline : uptimeLine line with
  | none =>
    -- then it has none of the openings
    simp only [uptimeLine, List.isPrefixOf_iff_prefix] at hline
    split_ifs at hline with h₁ h₂ h₃ h₄
    obtain ⟨-, hopening⟩ := h
    cases f with
    | uptime => exact absurd hopening h₁
    | one => exact absurd hopening h₂
    | five => exact absurd hopening h₃
    | fifteen => exact absurd hopening h₄
  | some w =>
    obtain ⟨g, l⟩ := w
    have hg := hsome hline
    rw [hg.field_eq h, hg.1, h.1]

/-- What the last lines say of the uptime and the loads. -/
theorem parseUptime_eq (text : Option String) :
    let said := lastSaid uptimeLine (linesOf text)
    parseUptime fl text = ((said .uptime).bind uptimeText, ⟨(said .one).bind (parsePct fl),
      (said .five).bind (parsePct fl), (said .fifteen).bind (parsePct fl)⟩) := by
  cases text with
  | none => rfl
  | some text =>
    rw [parseUptime, linesOf]
    generalize lines text.toList = ls
    induction ls using List.reverseRecOn with
    | nil => rfl
    | append_singleton ls line ih =>
      rw [List.foldl_append, ih, lastSaid_snoc]
      show uptimeStep fl _ line = _
      rw [uptimeStep, uptimeLine]
      -- the four openings exclude each other, so a line changes one field
      split
      · rfl
      · split
        · rfl
        · split
          · rfl
          · split <;> rfl

/-- A line of memory changes the field it names. -/
theorem memoryStep_eq {mem : MemoryInfo F} {line : List Char} {key val : String}
    (h : keyValue line = some (key, val)) :
    memoryStep fl mem line =
      { mem with
        totalBytes := if key = "total" then parseSize fl.toFloats val else mem.totalBytes
        usedBytes := if key = "used" then parseSize fl.toFloats val else mem.usedBytes
        freeBytes := if key = "free" then parseSize fl.toFloats val else mem.freeBytes } := by
  rw [memoryStep, h]
  have hdistinct : "total" ≠ "used" ∧ "total" ≠ "free" ∧ "used" ≠ "free" := by decide
  by_cases htotal : key = "total"
  · have hused : key ≠ "used" := htotal ▸ hdistinct.1
    have hfree : key ≠ "free" := htotal ▸ hdistinct.2.1
    simp only [if_pos htotal, if_neg hused, if_neg hfree]
  · by_cases hused : key = "used"
    · have hfree : key ≠ "free" := hused ▸ hdistinct.2.2
      simp only [if_neg htotal, if_pos hused, if_neg hfree]
    · by_cases hfree : key = "free"
      · simp only [if_neg htotal, if_neg hused, if_pos hfree]
      · simp only [if_neg htotal, if_neg hused, if_neg hfree]

theorem lastSaid_keyValue {ls : List (List Char)} {line : List Char} {key val : String}
    (h : keyValue line = some (key, val)) (k : String) :
    lastSaid keyValue (ls ++ [line]) k = if key = k then some val else lastSaid keyValue ls k := by
  rw [lastSaid_snoc, h]
  by_cases hkey : key = k
  · rw [if_pos hkey, ← hkey]
    exact Function.update_self _ _ _
  · rw [if_neg hkey]
    exact Function.update_of_ne (Ne.symm hkey) _ _

theorem foldl_memoryStep (ls : List (List Char)) :
    let said := lastSaid keyValue ls
    ls.foldl (memoryStep fl) ⟨none, none, none, none⟩ =
      ⟨(said "total").bind (parseSize fl.toFloats), (said "used").bind (parseSize fl.toFloats),
        (said "free").bind (parseSize fl.toFloats), none⟩ := by
  induction ls using List.reverseRecOn with
  | nil => rfl
  | append_singleton ls line ih =>
    rw [List.foldl_append, ih]
    show memoryStep fl _ line = _
    cases h : keyValue line with
    | none => rw [memoryStep, lastSaid_snoc, h]
    | some kv =>
      obtain ⟨key, val⟩ := kv
      rw [memoryStep_eq h, lastSaid_keyValue h, lastSaid_keyValue h, lastSaid_keyValue h]
      simp only [apply_ite (Option.bind · (parseSize fl.toFloats)), Option.bind_some]

theorem parseMemory_eq (text : Option String) :
    let said := lastSaid keyValue (linesOf text)
    parseMemory fl text =
      (MemoryInfo.mk ((said "total").bind (parseSize fl.toFloats))
        ((said "used").bind (parseSize fl.toFloats)) ((said "free").bind (parseSize fl.toFloats))
        none).withPct fl := by
  cases text with
  | none => rfl
  | some text => rw [parseMemory, foldl_memoryStep, linesOf]

theorem parseVersion_eq (text : Option String) :
    let said := lastSaid versionLine (linesOf text)
    parseVersion text = ⟨(said "version").map plainVersion, said "release train", said "built on",
      said "hardware vendor", said "hardware model"⟩ := by
  cases text <;> rfl

end Told

/-! ### The page -/

/-- What a device tells of its system. -/
structure SystemTold where
  version : String → Option String
  uptime : UptimeField → Option (List Char)
  memory : String → Option String

/-- The page shows what is told. -/
def SystemTold.info (told : SystemTold) (storage : List (StorageMount F))
    (raw : List (String × String)) : DeviceSystemInfo F where
  version := ⟨(told.version "version").map plainVersion, told.version "release train",
    told.version "built on", told.version "hardware vendor", told.version "hardware model"⟩
  uptime := (told.uptime .uptime).bind uptimeText
  load := ⟨(told.uptime .one).bind (parsePct fl), (told.uptime .five).bind (parsePct fl),
    (told.uptime .fifteen).bind (parsePct fl)⟩
  memory := (MemoryInfo.mk ((told.memory "total").bind (parseSize fl.toFloats))
    ((told.memory "used").bind (parseSize fl.toFloats))
    ((told.memory "free").bind (parseSize fl.toFloats)) none).withPct fl
  storage := storage
  raw := raw

section Page

variable {answer : (s : FabricStatement) → s.Reply} {claims : Claims} {id : Uuid}
  {client : VyosClient} {fl}

/-- The text of a command. -/
def commandText (answer : (s : FabricStatement) → s.Reply) (client : VyosClient) (path : Path) :
    Option String :=
  textOf (answer (client.show path))

/-- **The system page shows what the device tells.** Whatever the texts of the commands are, the
last line that speaks of a field decides it, wherever it stands and whatever was said of the field
before: if nothing can be made of that line, the field is empty. A command that fails, or does not
speak of a field, leaves its own fields empty and no others: the page is there as soon as the device
is. -/
theorem getSystemInfo_told (debug : Bool)
    (hclient : (fetchClient claims id).lift.eval answer = .ok client) :
    ∃ told : SystemTold,
      Tells VersionSays (commandText answer client ["version"]) told.version ∧
      Tells UptimeSays (commandText answer client ["system", "uptime"]) told.uptime ∧
      Tells HasKey (commandText answer client ["system", "memory"]) told.memory ∧
      (getSystemInfo fl claims id debug).eval answer =
        .ok (told.info fl
          (parseStorage fl.toFloats (commandText answer client ["system", "storage"]))
          (if debug then rawTexts (commandText answer client ["version"])
            (commandText answer client ["system", "uptime"])
            (commandText answer client ["system", "memory"])
            (commandText answer client ["system", "storage"]) else [])) := by
  refine ⟨⟨_, _, _⟩, (tells_iff versionLine_iff).2 rfl, (tells_iff uptimeLine_iff).2 rfl,
    (tells_iff fun _ _ _ ↦ keyValue_eq_some_iff).2 rfl, ?_⟩
  have hup := @parseUptime_eq F fl (commandText answer client ["system", "uptime"])
  have hmem := @parseMemory_eq F fl (commandText answer client ["system", "memory"])
  have hver := parseVersion_eq (commandText answer client ["version"])
  refine Prog.eval_bind_eq_ok.2 ⟨client, hclient, ?_⟩
  refine Prog.eval_bind_eq_ok.2 ⟨commandText answer client ["version"], rfl, ?_⟩
  refine Prog.eval_bind_eq_ok.2 ⟨commandText answer client ["system", "uptime"], rfl, ?_⟩
  refine Prog.eval_bind_eq_ok.2 ⟨commandText answer client ["system", "memory"], rfl, ?_⟩
  refine Prog.eval_bind_eq_ok.2 ⟨commandText answer client ["system", "storage"], rfl, ?_⟩
  rw [hup, hmem, hver]
  rfl

end Page

/-! ### A device that says things twice -/

/-- Numbers without a fraction. -/
def naturalFloats : SystemFloats ℕ where
  parse s :=
    if s.toList.all Char.isDigit then some (Nat.ofDigitChars 10 s.toList 0) else none
  scaled x mult := x * mult
  percent used total := used * 100 / total

def sampleVersionText : String :=
  "Version:          VyOS 1.4.3\nRelease train:    sagitta\n\nHardware model:\n" ++
    "VERSION:          vyos 1.4.4\n"

def sampleUptimeText : String :=
  "Uptime: 1 day\nUptime: 1 day, 2 hours\n\nLoad averages:\n15 minutes: 1%\n5 minutes:  2%\n" ++
    "1 minute:   3%\n1 minute:   4%\n"

/-- The second figure of what is used is none. -/
def sampleMemoryText : String := "Total: 2 GB\nUsed: 1 GB\nFree: 1 GB\nUsed: n/a\n"

def sampleSystemAnswer : (s : FabricStatement) → s.Reply
  | .review (.selectRouter _) => .ok (some ⟨0, 1, "192.0.2.1", "1.4", none, "https", some "key"⟩)
  | .post _ _ (.obj [("op", _), ("path", .arr [.str "version"])]) =>
    .ok (.obj [("success", .bool true), ("data", .str sampleVersionText)])
  | .post _ _ (.obj [("op", _), ("path", .arr [.str "system", .str "uptime"])]) =>
    .ok (.obj [("success", .bool true), ("data", .str sampleUptimeText)])
  | .post _ _ (.obj [("op", _), ("path", .arr [.str "system", .str "memory"])]) =>
    .ok (.obj [("success", .bool true), ("data", .str sampleMemoryText)])
  | _ => .error ⟨"timed out", .unsent⟩

def sampleSystemClient : VyosClient := .new "https" "192.0.2.1" none "key" "1.4"

/-- What was said last counts, and the storage, which cannot be read, is empty. -/
theorem getSystemInfo_told_partly :
    (getSystemInfo naturalFloats ⟨0, "admin"⟩ 0 false).eval sampleSystemAnswer =
      .ok { version := ⟨some "1.4.4", some "sagitta", none, none, none⟩
            uptime := some "1 day, 2 hours"
            load := ⟨some 4, some 2, some 1⟩
            memory := ⟨some (2 * 1024 ^ 3), none, some (1024 ^ 3), none⟩
            storage := []
            raw := [] } := by
  have hclient : (fetchClient ⟨0, "admin"⟩ 0).lift.eval sampleSystemAnswer =
      .ok sampleSystemClient := by rfl
  obtain ⟨⟨version, uptime, memory⟩, hversion, huptime, hmemory, heq⟩ :=
    @getSystemInfo_told ℕ naturalFloats _ _ _ _ false hclient
  obtain rfl := (tells_iff versionLine_iff).1 hversion
  obtain rfl := (tells_iff uptimeLine_iff).1 huptime
  obtain rfl := (tells_iff fun _ _ _ ↦ keyValue_eq_some_iff).1 hmemory
  refine heq.trans (congrArg Except.ok ?_)
  decide +kernel

end VyosFabric
