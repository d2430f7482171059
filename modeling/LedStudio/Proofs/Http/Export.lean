import LedStudio.Proofs.Http.Draft
import LedStudio.Proofs.Http.Update
import LedStudio.Proofs.Sketch.Plain

/-!
# Two ways to a sketch

A client may ask for a sketch with a pattern and settings of its own, or set them first and then take
the sketch of the session. The first way hands a text and integers to the generator as they are; the
second one keeps the pattern in a form of its own and clamps each setting by itself.

* `sketch_draft` — the sketch that a request asks for is the one of the revised draft.
* `exports_agree_undisturbed` — both ways give the same text, if no listener operates the session
  while it is set.
* `exports_differ_when_disturbed` — a listener that does, and another text.
-/

namespace LedStudio

/-! ## Settings that are clamped twice -/

theorem clampLedCount_clampInt {n : Int} (h : 0 ≤ n) :
    clampLedCount (.int (ledCountRange.clampInt n)) = clampLedCount (.int n) := by
  have hneg : ¬n < 0 := by omega
  have hclamp : ledCountRange.clampInt n = max 1 n := rfl
  rw [hclamp, clampLedCount_int (Int.le_max_left 1 n)]
  simp only [clampLedCount, settingInt, bind, Except.bind, hneg, if_false, pure, Except.pure,
    hclamp]

/-- A sketch may be darker than a session; from the least brightness of a session on they agree. -/
theorem clampLevel_clampInt {b : Int} (h : brightnessRange.low ≤ b) :
    Sketch.clampLevel (.int (brightnessRange.clampInt b)) = Sketch.clampLevel (.int b) := by
  have hlow : (10 : Int) ≤ b := h
  have hclamp : max 0 (min 100 (min 100 (max 10 b))) = max 0 (min 100 b) := by omega
  exact congrArg Except.ok hclamp

theorem clampSpeed_clampInt (k : Int) :
    clampSpeed (.int (speedRange.clampInt k)) = clampSpeed (.int k) := by
  have hclamp : min 100 (max 0 (min 100 (max 0 k))) = min 100 (max 0 k) := by omega
  exact congrArg Except.ok hclamp

namespace Sketch

variable {n n' b b' k k' : Value}

/-- A sketch does not tell settings apart that are clamped to the same. -/
theorem generate_of_clamped (h : Setup.clamped n b k = Setup.clamped n' b' k') (ref : PatternRef)
    (wiring : Wiring) : generate ref n b k wiring = generate ref n' b' k' wiring := by
  unfold generate
  rw [h]

theorem brokenPoints?_of_clamped (h : Setup.clamped n b k = Setup.clamped n' b' k')
    (ref : PatternRef) (wiring : Wiring) :
    brokenPoints? ref n b k wiring = brokenPoints? ref n' b' k' wiring := by
  unfold brokenPoints?
  rw [h]

/-- A number of LEDs that a sketch is written with is not negative. -/
theorem nonneg_of_generate {ref : PatternRef} {count : Int} {wiring : Wiring} {out : String × Log}
    (h : generate ref (.int count) b k wiring = .ok out) : 0 ≤ count := by
  by_contra hneg
  have hcount : clampLedCount (.int count) =
      .error (if isWritableInt count then .negativeLedCount count else .unwritableInteger) := by
    simp only [clampLedCount, settingInt, bind, Except.bind, Int.not_le.mp hneg, if_true, throw,
      throwThe, MonadExceptOf.throw]
  simp only [generate, Setup.clamped, hcount, bind, Except.bind, reduceCtorEq] at h

end Sketch

/-! ## The sketch of a draft -/

/-- The source of a draft's sketch and the log of writing it. -/
def Draft.sketch (d : Draft) (wiring : Wiring) : Outcome (String × Log) :=
  Sketch.generate d.pattern d.config.ledCount d.config.brightness d.config.speed wiring

/-- The half characters that keep the source from being a text. -/
def Draft.broken? (d : Draft) (wiring : Wiring) : Option (List Nat) :=
  Sketch.brokenPoints? d.pattern d.config.ledCount d.config.brightness d.config.speed wiring

namespace Http

/-- The draft with what a request gives put in as it is. -/
def CodeRequest.rawDraft (c : CodeRequest) (d : Draft) : Draft where
  pattern := c.pattern.getD d.pattern
  config :=
    { ledCount := chosen c.settings.ledCount d.config.ledCount
      brightness := chosen c.settings.brightness d.config.brightness
      speed := chosen c.settings.speed d.config.speed }

/-- The brightness is not below the least one of a session, if it is given. -/
def CodeRequest.BrightEnough (c : CodeRequest) : Prop :=
  ∀ b, c.settings.brightness = some b → brightnessRange.low ≤ b

variable {c : CodeRequest} {d : Draft}

/-- Clamping each setting by itself changes nothing for a sketch. -/
theorem clamped_draft (hcount : ∀ n, c.settings.ledCount = some n → 0 ≤ n)
    (hbrightness : c.BrightEnough) :
    Sketch.Setup.clamped (c.rawDraft d).config.ledCount (c.rawDraft d).config.brightness
        (c.rawDraft d).config.speed =
      Sketch.Setup.clamped (c.draft d).config.ledCount (c.draft d).config.brightness
        (c.draft d).config.speed := by
  have hn : clampLedCount (c.rawDraft d).config.ledCount =
      clampLedCount (c.draft d).config.ledCount := by
    simp only [CodeRequest.rawDraft, CodeRequest.draft, chosen]
    cases h : c.settings.ledCount with
    | none => rfl
    | some n => exact (clampLedCount_clampInt (hcount n h)).symm
  have hb : Sketch.clampLevel (c.rawDraft d).config.brightness =
      Sketch.clampLevel (c.draft d).config.brightness := by
    simp only [CodeRequest.rawDraft, CodeRequest.draft, chosen]
    cases h : c.settings.brightness with
    | none => rfl
    | some b => exact (clampLevel_clampInt (hbrightness b h)).symm
  have hk : clampSpeed (c.rawDraft d).config.speed = clampSpeed (c.draft d).config.speed := by
    simp only [CodeRequest.rawDraft, CodeRequest.draft, chosen]
    cases c.settings.speed with
    | none => rfl
    | some k => exact (clampSpeed_clampInt k).symm
  simp only [Sketch.Setup.clamped, hn, hb, hk]

theorem alike_pattern (c : CodeRequest) (d : Draft) :
    PatternRef.Alike (c.rawDraft d).pattern (c.draft d).pattern := by
  simp only [CodeRequest.rawDraft, CodeRequest.draft]
  cases c.pattern with
  | none => exact .refl d.pattern
  | some ref => exact ref.alike_normalize

/-- **The sketch that a request asks for is the one of the revised draft.** -/
theorem sketch_draft (hcount : ∀ n, c.settings.ledCount = some n → 0 ≤ n)
    (hbrightness : c.BrightEnough) (wiring : Wiring) :
    (c.rawDraft d).sketch wiring = (c.draft d).sketch wiring ∧
    (c.rawDraft d).broken? wiring = (c.draft d).broken? wiring := by
  have hclamped := clamped_draft (d := d) hcount hbrightness
  have halike := alike_pattern c d
  constructor
  · unfold Draft.sketch
    rw [halike.sketch, Sketch.generate_of_clamped hclamped]
  · unfold Draft.broken?
    rw [halike.points, Sketch.brokenPoints?_of_clamped hclamped]

/-! ## Answers with a sketch -/

/-- The sketch in an answer: a field of it, or the whole text. -/
def Response.code? (r : Response) : Option String :=
  match r.content with
  | .text code => some code
  | .json v =>
    match v.field? "code" with
    | some (.text code) => some code
    | _ => none

/-- A field of a body gives a pattern: none if it is missing or null, and else the text that names
it. -/
def GivenPattern (body : Json) : Option PatternRef → Prop
  | none => body.field? "pattern" = none ∨ body.field? "pattern" = some .null
  | some ref => ∃ v, body.field? "pattern" = some v ∧ v ≠ .null ∧ patternText "pattern" v = .ok ref

/-- A request for a sketch asks for what a body gives. -/
def CodeRequest.GivenBy (c : CodeRequest) (body : Json) : Prop :=
  GivenPattern body c.pattern ∧ c.settings.GivenBy body

theorem code_givenBy_of_read {body : Json} (h : CodeRequest.read body = .ok c) :
    c.GivenBy body := by
  unfold CodeRequest.read at h
  cases hfields : (optional patternText "pattern" body).both (ConfigUpdate.read body) with
  | error e => simp only [hfields, Except.map, reduceCtorEq] at h
  | ok x =>
    obtain ⟨hpattern, hsettings⟩ := Checked.both_ok hfields
    simp only [hfields, Except.map, Except.ok.injEq] at h
    subst h
    refine ⟨?_, givenBy_of_read hsettings⟩
    rcases optional_ok hpattern with ⟨hnone, hfield⟩ | ⟨v, ref, hsome, hfield⟩
    · rw [hnone]
      exact hfield
    · rw [hsome]
      exact ⟨v, hfield⟩

theorem writeCode_eq (c : CodeRequest) (s : SessionState) : writeCode c s =
    match (c.rawDraft s.draft).sketch s.body.wiring with
    | .ok (code, log) =>
      (answered (do
          return .object [("pattern", ← patternName (c.rawDraft s.draft).pattern),
            ("code", ← sketchJson code ((c.rawDraft s.draft).broken? s.body.wiring))]),
        { s with log := s.log ++ log })
    | .error f =>
      (.error (ledCountFailure (chosen c.settings.ledCount s.body.config.ledCount) f), s) := by
  simp only [← answerWith_eq]
  rfl

/-- Writing a sketch adds to the log and to nothing else. -/
theorem writeCode_state (c : CodeRequest) (s : SessionState) :
    ∃ log, (writeCode c s).2 = { s with log := log } := by
  rw [writeCode_eq]
  cases (c.rawDraft s.draft).sketch s.body.wiring with
  | ok written => exact ⟨_, rfl⟩
  | error f => exact ⟨s.log, rfl⟩

/-- An answer with a sketch has one that could be written and holds no half characters. -/
theorem writeCode_ok {s : SessionState} {api : Api}
    (h : (api.reply (writeCode c s).1).status = 200) : ∃ code log,
    (c.rawDraft s.draft).sketch s.body.wiring = .ok (code, log) ∧
    (c.rawDraft s.draft).broken? s.body.wiring = none ∧
    (api.reply (writeCode c s).1).code? = some code := by
  rw [writeCode_eq] at h ⊢
  cases hsketch : (c.rawDraft s.draft).sketch s.body.wiring with
  | error f =>
    rw [hsketch] at h
    exact absurd h (refuses_ledCountFailure _ f api.stamp)
  | ok written =>
    obtain ⟨code, log⟩ := written
    rw [hsketch] at h
    refine ⟨code, log, rfl, ?_⟩
    cases hpattern : patternName (c.rawDraft s.draft).pattern with
    | error f =>
      simp only [hpattern, bind, Except.bind] at h
      exact absurd h (refuses_unexpected f api.stamp)
    | ok shown =>
      cases hbroken : (c.rawDraft s.draft).broken? s.body.wiring with
      | some points =>
        simp only [hpattern, hbroken, sketchJson, bind, Except.bind] at h
        exact absurd h (refuses_unexpected (.unfitPoints points) api.stamp)
      | none => exact ⟨rfl, rfl⟩

/-- The session's own sketch, if it could be written and holds no half characters. -/
theorem generateCode_of_sketch {s : SessionState} {code : String} {log : Log}
    (h : s.draft.sketch s.body.wiring = .ok (code, log)) :
    ∃ t, s.perform .generateCode = (.ok (.code code), t) := by
  obtain ⟨log, hcode⟩ := Session.generateCode_ok s h
  exact ⟨_, Action.andThen_ok hcode⟩

theorem sendCode_of_sketch {s : SessionState} (api : Api) {code : String} {log : Log}
    (h : s.draft.sketch s.body.wiring = .ok (code, log))
    (hbroken : s.draft.broken? s.body.wiring = none) :
    (api.reply (sendCode s).1).status = 200 ∧ (api.reply (sendCode s).1).code? = some code := by
  obtain ⟨log, hcode⟩ := Session.generateCode_ok s h
  unfold Draft.broken? SessionState.draft at hbroken
  simp only [sendCode, Http.perform, hcode, hbroken]
  exact ⟨rfl, rfl⟩

/-! ## Both ways -/

variable {r get : Request} {d : Desk} {s : SessionState}

/-- A request for a sketch whose body is in order is handed to the session. -/
theorem handle_code (hfields : r.rawBody.fields? CodeRequest.read = some c) (api : Api)
    (hd : d.session = some s) : ∃ log,
    Route.code.handle api r d =
      ((writeCode c { s with log := d.log }).1, ⟨some { s with log := [] }, log⟩) := by
  obtain ⟨log, hstate⟩ := writeCode_state c { s with log := d.log }
  refine ⟨log, ?_⟩
  show d.withBody r CodeRequest.read writeCode = _
  rw [withBody_of_fields hfields, Desk.withSession, hd]
  simp only [hstate]

/-- Asking for a sketch leaves the session as it is, whatever the body. -/
theorem code_session (hroute : Route.ofPath? r.path = some .code) (hmethod : r.method = "POST")
    (hd : d.session = some s) (api : Api) :
    ∃ log, (api.respond r d).2.session = some { s with log := log } := by
  rw [respond_session hroute hmethod api d]
  cases hfields : r.rawBody.fields? CodeRequest.read with
  | none => exact (withBody_refused hd hfields writeCode api).1
  | some c =>
    obtain ⟨log, hhandle⟩ := handle_code hfields api hd
    exact ⟨[], by rw [hhandle]⟩

/-- What a sketch that was asked for means: what the body asks for, and the draft that it is written
from. -/
theorem code_answer (hroute : Route.ofPath? r.path = some .code) (hmethod : r.method = "POST")
    (hd : d.session = some s) (api : Api) (hok : (api.respond r d).1.status = 200) :
    ∃ c fields code log, r.rawBody.fields? CodeRequest.read = some c ∧
      r.rawBody = .json (.object fields) ∧ c.GivenBy (.object fields) ∧
      (c.rawDraft s.draft).sketch s.body.wiring = .ok (code, log) ∧
      (c.rawDraft s.draft).broken? s.body.wiring = none ∧
      (api.respond r d).1.code? = some code := by
  obtain ⟨hstatus, hcontent, -⟩ := respond_handle hroute hmethod api d
  rw [hstatus] at hok
  cases hfields : r.rawBody.fields? CodeRequest.read with
  | none => exact absurd hok (withBody_refused hd hfields writeCode api).2
  | some c =>
    obtain ⟨fields, hbody, hread⟩ := object_of_fields hfields
    obtain ⟨log, hhandle⟩ := handle_code hfields api hd
    rw [hhandle] at hok hcontent
    obtain ⟨code, log, hsketch, hbroken, hcode⟩ := writeCode_ok hok
    refine ⟨c, fields, code, log, rfl, hbody, code_givenBy_of_read hread, hsketch, hbroken, ?_⟩
    unfold Response.code? at hcode ⊢
    rwa [hcontent]

/-- Whoever takes the sketch of a session gets it. -/
theorem download_answer (hroute : Route.ofPath? get.path = some .download)
    (hmethod : get.method = "GET") (hd : d.session = some s) (api : Api) {code : String} {log : Log}
    (hsketch : s.draft.sketch s.body.wiring = .ok (code, log))
    (hbroken : s.draft.broken? s.body.wiring = none) :
    (api.respond get d).1.status = 200 ∧ (api.respond get d).1.code? = some code := by
  obtain ⟨hstatus, hcontent, -⟩ := respond_handle hroute hmethod api d
  have hhandle : (Route.download.handle api get d).1 = (sendCode { s with log := d.log }).1 := by
    simp only [Route.handle, Desk.withSession, hd]
  have hsend := sendCode_of_sketch (s := { s with log := d.log }) api hsketch hbroken
  rw [hhandle] at hstatus hcontent
  unfold Response.code? at hsend ⊢
  rw [hstatus, hcontent]
  exact hsend

/-! ## Sketches that are sure to come -/

variable {ledPin ledType colorOrder : String} {n b k : Int}

/-- The text of a draft with integer settings. -/
theorem sketch_plain {wiring : Wiring} (h : wiring.Plain ledPin ledType colorOrder) {d : Draft}
    (hconfig : d.config = ⟨.int n, .int b, .int k⟩) (hn : 0 ≤ n) (hsize : isWritableInt n = true) :
    (∃ log, d.sketch wiring = .ok (.ofList
      (Sketch.laidOut id d.pattern n b k ledPin.toList ledType.toList colorOrder.toList), log)) ∧
    d.broken? wiring = none := by
  unfold Draft.sketch Draft.broken?
  rw [hconfig]
  exact ⟨Sketch.generate_plain h d.pattern hn hsize b k,
    Sketch.brokenPoints?_plain h d.pattern hn b k⟩

/-- A request whose body is in order, with integers that are in order, gets a sketch. -/
theorem code_plain (hroute : Route.ofPath? r.path = some .code) (hmethod : r.method = "POST")
    (hfields : r.rawBody.fields? CodeRequest.read = some c) (api : Api) (hd : d.session = some s)
    (h : s.body.wiring.Plain ledPin ledType colorOrder) {ref : PatternRef}
    (hdraft : c.rawDraft s.draft = ⟨ref, .int n, .int b, .int k⟩)
    (hpattern : ∀ points, ref ≠ .broken points) (hn : 0 ≤ n) (hsize : isWritableInt n = true) :
    (api.respond r d).1.status = 200 ∧ (api.respond r d).1.code? = some (.ofList
      (Sketch.laidOut id ref n b k ledPin.toList ledType.toList colorOrder.toList)) := by
  obtain ⟨hstatus, hcontent, -⟩ := respond_handle hroute hmethod api d
  obtain ⟨log, hhandle⟩ := handle_code hfields api hd
  obtain ⟨⟨log, hsketch⟩, hbroken⟩ := sketch_plain h (d := ⟨ref, .int n, .int b, .int k⟩) rfl hn hsize
  have hwrite := congrArg Prod.fst (writeCode_eq c { s with log := d.log })
  rw [show c.rawDraft (SessionState.draft { s with log := d.log }) = _ from hdraft, hsketch,
    hbroken, patternName_ok hpattern] at hwrite
  rw [hhandle, hwrite] at hstatus hcontent
  unfold Response.code?
  rw [hstatus, hcontent]
  exact ⟨rfl, rfl⟩

/-- **Both ways to a sketch agree.** Asking for a sketch, with whatever body, leaves the session as it
is, with its clock, its pending tick, its colours, its sketch and its random numbers. If the answer is
a success, let what was asked for be set on the session instead, in any order, with a brightness that
is not below the least one of a session, and let no subscribed listener operate the session when it
renders meanwhile; a session that does not run renders nothing. Where that succeeds, the session's own
sketch is the text of the answer, and so is what is sent to be kept as a file. -/
theorem exports_agree_undisturbed (api : Api) {d : Desk} {s : SessionState}
    (hd : d.session = some s) {r : Request} (hroute : Route.ofPath? r.path = some .code)
    (hmethod : r.method = "POST") :
    (∃ u, (api.respond r d).2.session = some u ∧ u.clock = s.clock ∧ u.body = s.body) ∧
    ((api.respond r d).1.status = 200 → ∃ c fields code,
      r.rawBody.fields? CodeRequest.read = some c ∧
      r.rawBody = .json (.object fields) ∧ c.GivenBy (.object fields) ∧
      (api.respond r d).1.code? = some code ∧
      (s.Undisturbed → c.BrightEnough → ∀ ops t, ops.Perm c.operations →
        s.performEach ops = (.ok (), t) →
        (∃ u, t.perform .generateCode = (.ok (.code code), u)) ∧
        ∀ get log, Route.ofPath? get.path = some .download → get.method = "GET" →
          let answer := (api.respond get ⟨some t, log⟩).1
          answer.status = 200 ∧ answer.code? = some code)) := by
  constructor
  · obtain ⟨log, hsession⟩ := code_session hroute hmethod hd api
    exact ⟨_, hsession, rfl, rfl⟩
  · intro hok
    obtain ⟨c, fields, code, log, hfields, hbody, hgiven, hsketch, hbroken, hcode⟩ :=
      code_answer hroute hmethod hd api hok
    refine ⟨c, fields, code, hfields, hbody, hgiven, hcode, ?_⟩
    intro hquiet hbrightness ops t hops hset
    have hcount : ∀ n, c.settings.ledCount = some n → 0 ≤ n := by
      intro n hn
      simp only [Draft.sketch, CodeRequest.rawDraft, chosen, hn, Option.map_some,
        Option.getD_some] at hsketch
      exact Sketch.nonneg_of_generate hsketch
    obtain ⟨hdraft, hstand⟩ := SessionState.performEach_revises hquiet
      (fun op hop => revises_of_mem (hops.mem_iff.mp hop)) hset
    rw [revise_perm hops] at hdraft
    obtain ⟨hsame, hnone⟩ := sketch_draft (d := s.draft) hcount hbrightness s.body.wiring
    rw [hsame, ← hdraft, ← hstand.wiring] at hsketch
    rw [hnone, ← hdraft, ← hstand.wiring] at hbroken
    constructor
    · exact generateCode_of_sketch hsketch
    · intro get log hget hgetMethod
      exact download_answer hget hgetMethod rfl api hsketch hbroken

/-- The request names a pattern by this text, or names none, and gives these settings. -/
def CodeRequest.isFor (c : CodeRequest) (t : Option String) (u : ConfigUpdate) : Bool :=
  match c.pattern, t with
  | some (.value (.text s)), some name => s = name && c.settings = u
  | none, none => c.settings = u
  | _, _ => false

theorem fields_of_isFor {body : RawBody} {t : Option String} {u : ConfigUpdate}
    (h : (body.fields? CodeRequest.read).any (·.isFor t u) = true) :
    body.fields? CodeRequest.read = some ⟨t.map fun s => .value (.text s), u⟩ := by
  cases hfields : body.fields? CodeRequest.read with
  | none =>
    rw [hfields] at h
    cases h
  | some c =>
    obtain ⟨pattern, settings⟩ := c
    rw [hfields] at h
    unfold CodeRequest.isFor Option.any at h
    simp only at h
    split at h
    · simp only [Bool.and_eq_true, decide_eq_true_eq] at h
      rw [h.1, h.2]
      rfl
    · rw [of_decide_eq_true h]
      rfl
    · cases h

/-- Three LEDs that flash. -/
def threeFlashing : SessionSetup where
  config := ⟨.int 3, .int 100, .int 50⟩
  pattern := .id .strobe
  stream := .cycle #[]

/-- A session with a listener, once its clock is started. -/
def startedFor (manner : Manner) (s : SessionState) : SessionState :=
  s.steps [.op (.subscribe "view" manner), .op .start]

/-- Asks for a sketch with a padded name, no LEDs, the least brightness and more speed than there
is. -/
def askForAll : Request where
  method := "POST"
  path := "/api/v1/code"
  headers := [("content-type", "application/json")]
  body := some
    "\x7b\"pattern\": \" Police \", \"led_count\": 0, \"brightness\": 10, \"speed\": 120\x7d"

/-- The listener would set the speed in another frame than the one at which the session stands. -/
theorem exports_agree_undisturbed_police : ∃ s t, threeFlashing.create = .ok s ∧
    startedFor (.act (some 7) [.setSpeed (.int 0)]) s = t ∧
    Route.ofPath? askForAll.path = some .code ∧ askForAll.method = "POST" ∧
    (Api.respond { stamp := ⟨"today", "first"⟩ } askForAll ⟨some t, []⟩).1.status = 200 ∧
    t.Undisturbed ∧ t.clock.isRunning = true ∧ ∃ u v code,
      t.performEach [.setSpeed (.int 120), .setBrightness (.int 10), .setLedCount (.int 0),
        .setPattern (.value (.text " Police "))] = (.ok (), u) ∧
      (Api.respond { stamp := ⟨"today", "first"⟩ } askForAll ⟨some t, []⟩).1.code? = some code ∧
      u.perform .generateCode = (.ok (.code code), v) := by
  have hroute : Route.ofPath? askForAll.path = some .code := by decide +kernel
  have hfields : askForAll.rawBody.fields? CodeRequest.read =
      some ⟨some (.value (.text " Police ")), ⟨some 0, some 10, some 120⟩⟩ := by
    refine fields_of_isFor (t := some " Police ") ?_
    decide +kernel
  have hsize : isWritableInt 0 = true := isWritableInt_of_digit (by decide)
  have hbright : CodeRequest.BrightEnough
      ⟨some (.value (.text " Police ")), ⟨some 0, some 10, some 120⟩⟩ := by
    rintro b ⟨⟩
    decide
  refine ⟨_, _, rfl, rfl, hroute, rfl, ?_⟩
  generalize ht : startedFor _ _ = t
  have hok : (Api.respond { stamp := ⟨"today", "first"⟩ } askForAll ⟨some t, []⟩).1.status = 200 := by
    subst ht
    exact (code_plain hroute rfl hfields _ rfl Wiring.plain_default rfl nofun (Int.le_refl 0)
      hsize).1
  have hquiet : t.Undisturbed := by
    subst ht
    decide +kernel
  have hrunning : t.clock.isRunning = true := by
    subst ht
    decide +kernel
  have hset : (t.performEach [.setSpeed (.int 120), .setBrightness (.int 10),
      .setLedCount (.int 0), .setPattern (.value (.text " Police "))]).1.isOk = true := by
    subst ht
    decide +kernel
  obtain ⟨c, fields, code, hc, -, -, hcode, hsame⟩ :=
    (exports_agree_undisturbed _ rfl hroute rfl).2 hok
  obtain rfl := Option.some.inj (hfields.symm.trans hc)
  refine ⟨hok, hquiet, hrunning, ?_⟩
  rcases hran : t.performEach [.setSpeed (.int 120), .setBrightness (.int 10),
      .setLedCount (.int 0), .setPattern (.value (.text " Police "))] with ⟨f | _, u⟩
  · rw [hran] at hset
    cases hset
  · obtain ⟨⟨v, hv⟩, -⟩ := hsame hquiet hbright _ u (List.reverse_perm _) hran
    exact ⟨u, v, code, rfl, hcode, hv⟩

/-- Asks for a darker sketch. -/
def askForDarker : Request := { askForAll with body := some "\x7b\"brightness\": 10\x7d" }

/-- The session would write a sketch of this pattern with these numbers, for a wiring that a strip has
by itself. -/
def isSetTo (s : SessionState) (p : PatternId) (n b k : Int) : Bool :=
  match s.body.pattern, s.body.config, s.body.wiring with
  | .id q, ⟨.int count, .int level, .int speed⟩, ⟨.int 6, .text type, .text order⟩ =>
    q = p && (count, level, speed) = (n, b, k) && type = "WS2812B" && order = "GRB"
  | _, _, _ => false

theorem sketch_of_isSetTo {s : SessionState} {p : PatternId} {n b k : Int}
    (h : isSetTo s p n b k = true) (hn : 0 ≤ n) (hsize : isWritableInt n = true) :
    ∃ log, s.draft.sketch s.body.wiring = .ok (.ofList (Sketch.laidOut id (.id p) n b k "6".toList
      "WS2812B".toList "GRB".toList), log) := by
  unfold isSetTo at h
  split at h
  · rename_i q count level speed type order hpattern hconfig hwiring
    simp only [Bool.and_eq_true, decide_eq_true_eq, Prod.mk.injEq] at h
    obtain ⟨⟨⟨rfl, rfl, rfl, rfl⟩, rfl⟩, rfl⟩ := h
    obtain ⟨hsketch, -⟩ := sketch_plain Wiring.plain_default (d := s.draft) hconfig hn hsize
    rw [hwiring]
    rwa [show s.draft.pattern = .id q from hpattern] at hsketch
  · cases h

/-- A listener that selects another pattern when it is called: the sketch of the answer is the one
of a flash, and the session's own is the one of a rainbow. -/
theorem exports_differ_when_disturbed : ∃ s t, threeFlashing.create = .ok s ∧
    startedFor (.act none [.setPattern (.id .rainbow)]) s = t ∧
    Route.ofPath? askForDarker.path = some .code ∧ askForDarker.method = "POST" ∧
    (Api.respond { stamp := ⟨"today", "first"⟩ } askForDarker ⟨some t, []⟩).1.status = 200 ∧
    ∃ c u v code other, askForDarker.rawBody.fields? CodeRequest.read = some c ∧ c.BrightEnough ∧
      t.performEach c.operations = (.ok (), u) ∧
      (Api.respond { stamp := ⟨"today", "first"⟩ } askForDarker ⟨some t, []⟩).1.code? = some code ∧
      u.perform .generateCode = (.ok (.code other), v) ∧ other ≠ code := by
  have hroute : Route.ofPath? askForDarker.path = some .code := by decide +kernel
  have hfields : askForDarker.rawBody.fields? CodeRequest.read =
      some ⟨none, ⟨none, some 10, none⟩⟩ := by
    refine fields_of_isFor (t := none) ?_
    decide +kernel
  have hcount : (0 : Int) ≤ 3 := by decide
  have hsize : isWritableInt 3 = true := isWritableInt_of_digit (by decide)
  have hbright : CodeRequest.BrightEnough ⟨none, ⟨none, some 10, none⟩⟩ := by
    rintro b ⟨⟩
    decide
  refine ⟨_, _, rfl, rfl, hroute, rfl, ?_⟩
  generalize ht : startedFor _ _ = t
  obtain ⟨hok, hcode⟩ : (Api.respond { stamp := ⟨"today", "first"⟩ } askForDarker
      ⟨some t, []⟩).1.status = 200 ∧
    (Api.respond { stamp := ⟨"today", "first"⟩ } askForDarker ⟨some t, []⟩).1.code? =
      some (.ofList (Sketch.laidOut id (.id .strobe) 3 10 50 "6".toList "WS2812B".toList
        "GRB".toList)) := by
    subst ht
    exact code_plain hroute rfl hfields _ rfl Wiring.plain_default rfl nofun hcount hsize
  have hset : (t.performEach [.setBrightness (.int 10)]).1.isOk = true ∧
      isSetTo (t.performEach [.setBrightness (.int 10)]).2 .rainbow 3 10 50 = true := by
    subst ht
    decide +kernel
  rcases hran : t.performEach [.setBrightness (.int 10)] with ⟨f | _, u⟩
  · rw [hran] at hset
    cases hset.1
  · rw [hran] at hset
    obtain ⟨log, hsketch⟩ := sketch_of_isSetTo hset.2 hcount hsize
    obtain ⟨v, hv⟩ := generateCode_of_sketch hsketch
    refine ⟨hok, _, u, v, _, _, hfields, hbright, hran, hcode, hv, ?_⟩
    intro hsame
    have hlist := String.ofList_injective hsame
    unfold Sketch.laidOut at hlist
    rw [sketchTemplate, String.toList_intercalate] at hlist
    revert hlist
    decide +kernel

end Http
end LedStudio
