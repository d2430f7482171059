import LedStudio.Log
import LedStudio.Settings.Source

/-!
# Loading settings

The main document holds sections of settings, or a list of documents to include, whose sections are
put together. If it cannot be loaded, the factory document takes its place. The sections found are
merged over the built-in ones key by key; what is loaded replaces what was loaded before, all or
nothing.
-/

namespace LedStudio

namespace Settings

/-- The built-in settings. -/
def builtIn : Entries :=
  [(.text "strip", .map
      [(.text "led_count", .int 20), (.text "brightness", .int 100), (.text "speed", .int 50),
       (.text "pattern", .text "rainbow")]),
   (.text "clock", .map [(.text "min_interval_ms", .int 1)]),
   (.text "firmware", .map
      [(.text "led_pin", .int 6), (.text "led_type", .text "WS2812B"),
       (.text "color_order", .text "GRB")]),
   (.text "api", .map [(.text "host", .text "0.0.0.0"), (.text "port", .int 8000)]),
   (.text "logging", .map [(.text "level", .text "INFO"), (.text "use_colors", .bool true)])]

/-! ## Documents -/

/-- The sections of a document. An empty document has none. -/
def sections (source : Source) (name : String) : Outcome Entries := do
  let v ← source.read name
  if !v.isTruthy then return []
  match v with
  | .map entries => return entries
  | v => throw (.documentNotAMap ((Folder.steps name).getLastD "") v.kind)

/-- What an include list goes through: a list's items, a set's members, a map's keys, a text's
characters, or the numbers of bytes. -/
def includeItems : Value → Outcome (List Value)
  | .list items => .ok items
  | .tuple items => .ok items
  | .set members => .ok members
  | .map entries => .ok (entries.map (·.1))
  | .text s => .ok (s.toList.map fun c => .text (.ofList [c]))
  | .brokenText points => .ok (points.map fun p => .ofPoints [p])
  | .bytes bytes => .ok (bytes.map fun b => .int b.toNat)
  | v => .error (.notIterable v.kind)

/-- The keys of a map, as they are logged. -/
def keyList (entries : Entries) : Outcome String := (Value.list (entries.map (·.1))).written

def record (level : LogLevel) (message : String) (details : List String) : LogRecord :=
  ⟨.config, level, message, details⟩

/-- The record of a document that could not be included. -/
def includeFailure (name : String) (f : Fault) : LogRecord :=
  match f with
  | .fileNotFound _ => record .error ("File not found: " ++ name) []
  | f => record .error ("Error loading " ++ name) [detail "error" f.message]

/-- The sections of a document beside the main one, and the text of their keys. -/
def included (source : Source) (main : String) : Value → Outcome (Entries × String)
  | .text name => do
    let entries ← sections source (Folder.beside main name)
    return (entries, ← keyList entries)
  | v => .error (.unencodable v.points)

/-- Puts the sections of documents together, after those already loaded; a section that occurs
again replaces the earlier one. The first document that fails ends it. -/
def includeAll (source : Source) (main : String) : (items : List Value) → (done : Entries) → Log →
    Outcome Entries × Log
  | [], done, log => (.ok done, log)
  | item :: rest, done, log =>
    if item.kind = .text then
      match included source main item with
      | .ok (entries, keys) =>
        includeAll source main rest (Entries.merge done entries)
          (log ++ [record .info ("Loaded " ++ item.display) [detail "keys" keys]])
      | .error f => (.error f, log ++ [includeFailure item.display f])
    else (.error (.notAFileName item.kind), log)

/-- The sections that the main document stands for. -/
def mainSections (source : Source) (main : String) : Outcome Entries × Log :=
  match sections source main with
  | .error f => (.error f, [])
  | .ok entries =>
    match Entries.field? entries "include" with
    | none => (.ok entries, [record .info "Using monolithic configuration" []])
    | some list =>
      let log := [record .info "Using include-based configuration" []]
      match includeItems list with
      | .error f => (.error f, log)
      | .ok items => includeAll source main items [] log

/-! ## Merging -/

/-- Merges one section. A section that is built in has to be a map, or to hold nothing. -/
def mergeSection (done : Entries) (name v : Value) : Outcome Entries :=
  match Entries.get? builtIn name, v with
  | none, v => .ok (Entries.insert done name v)
  | some _, .null => .ok done
  | some _, .map entries =>
    match Entries.get? done name with
    | some (.map old) => .ok (Entries.insert done name (.map (Entries.merge old entries)))
    | _ => .ok (Entries.insert done name (.map entries))
  | some _, v => .error (.sectionNotAMap name v.kind)

def mergeSections : Entries → Entries → Outcome Entries
  | done, [] => .ok done
  | done, (name, v) :: rest => (mergeSection done name v).bind fun done => mergeSections done rest

/-- The sections merged over the built-in ones. -/
def overBuiltIn (entries : Entries) : Outcome Entries := mergeSections builtIn entries

/-! ## Loading -/

/-- What is said of the data that loading arrived at. -/
def loadedRecord (data : Entries) : Outcome LogRecord :=
  (keyList data).map fun keys => record .info "Config loaded" [detail "sections" keys]

/-- The data of the factory document. -/
def factoryData (source : Source) (factory : String) : Outcome Entries :=
  (sections source factory).bind overBuiltIn

/-- The data of the main document, or else of the factory document. -/
def load (source : Source) (main factory : String) : Outcome Entries × Log :=
  let (loaded, log) := mainSections source main
  match loaded.bind overBuiltIn with
  | .ok data => (.ok data, log)
  | .error f =>
    let log := log ++
      [record .error "Failed to load config.yaml"
        [detail "error" f.message, detail "error_type" f.label],
       record .warn "Falling back to factory defaults" []]
    match factoryData source factory with
    | .ok data => (.ok data, log)
    | .error f => (.error (.nothingToLoad (source.path main) (source.path factory) f), log)

end Settings
end LedStudio
