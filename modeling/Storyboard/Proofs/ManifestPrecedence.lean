import Mathlib.Control.Monad.Basic
import Storyboard.Proofs.AlikeDisks
import Storyboard.Proofs.ManifestReadBack
import Storyboard.Proofs.ResultFile

/-! # Manifests take precedence

Where there is a manifest, the keywords of a result tree have no influence on a run:
two disks that differ only in the result tree give the same outcome and the same
destination, as long as the suite has the same name. A tree is seen only where it is taken
for the manifest, which it never is, and where a run fails to replace it.
-/
namespace Storyboard

open Files (Disk Entry Location Path)

/-! ## No document is a value -/

namespace Xml

theorem run_chars {raw : List Char} {us : List Token} {b : Builder}
    (h : Builder.start.run (.chars raw :: us) = some b) :
    raw.all isSpace = true ∧ Builder.start.run us = some b := by
  rw [Builder.run] at h
  by_cases hspace : raw.all isSpace = true
  · simp only [Builder.step, Builder.start, List.isEmpty_nil, if_true, hspace] at h
    exact ⟨hspace, h⟩
  · simp [Builder.step, Builder.start, hspace] at h

/-- White space aside, a document starts with a tag or with a byte order mark. -/
theorem front_of_read? {text : String} {root : Node} (h : read? text = some root) :
    ∃ ws c rest, text.toList = ws ++ c :: rest ∧ ws.all isSpace = true ∧
      (c = '<' ∨ c = Char.ofNat 0xFEFF) := by
  unfold read? at h
  obtain ⟨body, hbody, h⟩ := Option.bind_eq_some_iff.mp h
  obtain ⟨ts, hts, h⟩ := Option.bind_eq_some_iff.mp h
  obtain ⟨b, hb, hroot⟩ := Option.bind_eq_some_iff.mp h
  have hstart : Builder.start.run [] ≠ some b := by
    intro hrun
    cases hrun
    cases hroot
  cases hcs : text.toList with
  | nil =>
    rw [hcs] at hbody
    cases hbody
    rw [tokens?] at hts
    cases hts
    exact absurd hb hstart
  | cons c cs =>
    by_cases hfirst : c = '<' ∨ c = Char.ofNat 0xFEFF
    · exact ⟨[], c, cs, rfl, rfl, hfirst⟩
    · rw [not_or] at hfirst
      rw [hcs, body?_of_ne cs hfirst.1 hfirst.2] at hbody
      cases hbody
      obtain ⟨us, rfl, hus⟩ := tokens?_of_ne hfirst.1 hts
      obtain ⟨hspace, hrun⟩ := run_chars hb
      have hsplit : (c :: cs).takeWhile (· != '<') ++ (c :: cs).dropWhile (· != '<') = c :: cs :=
        List.takeWhile_append_dropWhile
      -- There is more than white space, and it starts with a tag.
      cases hrest : (c :: cs).dropWhile (· != '<') with
      | nil =>
        rw [hrest, tokens?] at hus
        cases hus
        exact absurd hrun hstart
      | cons mark rest =>
        have hmark : mark = '<' := by
          have hhead := List.head?_dropWhile_not (· != '<') (c :: cs)
          rw [hrest] at hhead
          simpa using hhead
        rw [hrest] at hsplit
        exact ⟨_, mark, rest, hsplit.symm, hspace, Or.inl hmark⟩

end Xml

theorem Json.readToken_eq_none {c : Char} (cs : List Char) (h : c = '<' ∨ c = Char.ofNat 0xFEFF) :
    readToken (c :: cs) = none := by
  have hrow : ∀ c : Char, c.isDigit = false → readUnsigned false (c :: cs) = none := by
    intro c hc
    simp [readUnsigned, readRow, hc]
  rcases h with rfl | rfl
  · rw [readToken_of_notMem (by decide), hrow _ (by decide)]
    rfl
  · rw [readToken_of_notMem (by decide), hrow _ (by decide)]
    rfl

theorem Json.read?_of_document {text : String} {root : Xml.Node} (h : Xml.read? text = some root) :
    read? text = none := by
  obtain ⟨ws, c, rest, htext, hspace, hc⟩ := Xml.front_of_read? h
  have hdrop : (c :: rest).dropWhile isSpace = c :: rest := by
    rw [List.dropWhile_cons_of_neg]
    rcases hc with rfl | rfl <;> decide
  have hstuck : tokens? (c :: rest) = none := by
    apply tokens?_of_stuck
    · rw [hdrop]
      exact List.cons_ne_nil c rest
    · rw [hdrop, readToken_eq_none rest hc]
  rw [read?, htext, tokens?_blank_append _ hspace, hstuck, Option.bind_none]

/-! ## Reading two disks -/

def RunResult.HasSuite (content : ByteArray) (suite : Option String) : Prop :=
  ∃ text root, String.fromUTF8? content = some text ∧ Xml.read? text = some root ∧
    suiteNameOf root = suite

theorem RunResult.HasSuite.ofBytes? {content : ByteArray} {suite : Option String}
    (h : HasSuite content suite) : Json.ofBytes? content = none := by
  obtain ⟨text, root, htext, hroot, -⟩ := h
  rw [Json.ofBytes?, htext, Option.bind_some, Json.read?_of_document hroot]

theorem RunResult.HasSuite.load {content : ByteArray} {suite : Option String}
    (h : HasSuite content suite) {d : Disk} {p : Path} (hread : d.readBytes p = .ok content)
    (zone : Time.Zone) :
    ∃ result, (RunResult.load d zone p).outcome = .ok result ∧ result.suiteName = suite := by
  obtain ⟨text, root, htext, hroot, hname⟩ := h
  refine ⟨ofTree zone root, ?_, hname⟩
  have hresult : RunResult.read? zone text = some (ofTree zone root) := by
    rw [RunResult.read?, hroot, Option.map_some]
  simp only [RunResult.load, Disk.readText, hread, htext, hresult]

/-- Two disks differ at most in one file, which holds result trees of one suite. -/
structure SameSuite (loc : Location) (suite : Option String) (d d' : Disk) : Prop where
  alike : Disk.Alike loc d d'
  first : ∀ e content, d.entryAt loc = some e → e.read = .ok content →
    RunResult.HasSuite content suite
  second : ∀ e content, d'.entryAt loc = some e → e.read = .ok content →
    RunResult.HasSuite content suite

variable {loc : Location} {suite : Option String} {d d' : Disk} {zone : Time.Zone}
  {args : Arguments}

theorem RunResult.hasSuite_of_read? {text : String}
    (h : (Xml.read? text).map suiteNameOf = some suite) : HasSuite text.toUTF8 suite := by
  obtain ⟨root, hroot, hname⟩ := Option.map_eq_some_iff.mp h
  exact ⟨text, root, Text.fromUTF8?_toUTF8 text, hroot, hname⟩

theorem sameSuite_put {c c' : ByteArray} (hroot : loc ≠ [])
    (hfile : d.entryAt loc = some (.file c)) (hc : RunResult.HasSuite c suite)
    (hc' : RunResult.HasSuite c' suite) : SameSuite loc suite d (d.put loc (.file c')) := by
  have hput := Disk.entryAt_put (d := d) (e := .file c') hroot
  have hplace := hput loc
  rw [if_pos rfl] at hplace
  refine ⟨⟨⟨rfl, rfl⟩, fun l hl => ?_, _, _, hfile, hplace, .file c c'⟩,
    fun e content he hread => ?_, fun e content he hread => ?_⟩
  · rw [hput, if_neg hl]
  · rw [hfile] at he
    cases he
    cases hread
    exact hc
  · rw [hplace] at he
    cases he
    cases hread
    exact hc'

theorem SameSuite.load_result (h : SameSuite loc suite d d') (zone : Time.Zone) (p : Path) :
    Disk.Agree (fun r r' => r'.suiteName = r.suiteName) (RunResult.load d zone p).outcome
      (RunResult.load d' zone p).outcome := by
  rcases h.alike.readBytes p with heq | ⟨e, e', c, c', -, he, hc, he', hc', hread, hread'⟩
  · rw [RunResult.load_congr heq]
    cases (RunResult.load d zone p).outcome with
    | error e => exact .error e
    | ok r => exact .ok rfl
  · obtain ⟨r, hr, hname⟩ := (h.first e c he hc).load hread zone
    obtain ⟨r', hr', hname'⟩ := (h.second e' c' he' hc').load hread' zone
    rw [hr, hr']
    exact .ok (hname'.trans hname.symm)

theorem RunResult.HasSuite.load_manifest {content : ByteArray} (h : HasSuite content suite)
    {p : Path} (hread : d.readBytes p = .ok content) :
    (Manifest.load d p).outcome = .error (.malformedManifest p content) := by
  have hbytes : Manifest.ofBytes p content = .error (.malformedManifest p content) := by
    rw [Manifest.ofBytes, h.ofBytes?]
  rw [Manifest.load, if_pos (Disk.pathExists_of_readBytes hread), hread]
  dsimp only
  rw [hbytes]
  rfl

/-- A manifest is loaded alike, or it is the result tree and malformed on both disks. -/
theorem SameSuite.load_manifest (h : SameSuite loc suite d d') (p : Path) :
    (Manifest.load d' p).outcome = (Manifest.load d p).outcome ∨
      (∃ e, d.lookup p = .ok (loc, e)) ∧
        ∃ c c', (Manifest.load d p).outcome = .error (.malformedManifest p c) ∧
          (Manifest.load d' p).outcome = .error (.malformedManifest p c') := by
  rcases h.alike.readBytes p with heq | ⟨e, e', c, c', hlookup, he, hc, he', hc', hread, hread'⟩
  · rw [Manifest.load_congr (h.alike.pathExists p) fun _ => heq]
    exact Or.inl rfl
  · exact Or.inr ⟨⟨e, hlookup⟩, c, c', (h.first e c he hc).load_manifest hread,
      (h.second e' c' he' hc').load_manifest hread'⟩

theorem Files.Disk.Alike.locations (h : Disk.Alike loc d d')
    (outputXml outputDir artifactsJson : Path) (manifest : Option Path) :
    Locations.resolve d' outputXml outputDir artifactsJson manifest =
      Locations.resolve d outputXml outputDir artifactsJson manifest := by
  have hpath : Locations.resolvePath d' = Locations.resolvePath d := by
    funext p
    rw [Locations.resolvePath, Locations.resolvePath, h.resolve]
  unfold Locations.resolve
  rw [hpath]

theorem Manifest.pathExists_of_load {path : Path} (h : (load d path).outcome = .ok none) :
    d.pathExists path = false := by
  unfold load at h
  split at h
  · split at h
    · cases h
    · split at h <;> cases h
  · next habsent => exact Bool.eq_false_iff.mpr habsent

namespace Conversion

/-- The paths of a run lead to a manifest, if they can be resolved. -/
def ManifestExists (d : Disk) (args : Arguments) : Prop :=
  ∀ l, Locations.resolve d args.outputXml args.outputDir args.artifactsJson args.manifestPath =
    .ok l → d.pathExists l.manifest = true

/-- The manifest of a run is looked for in the file at a place. -/
def ManifestIn (d : Disk) (args : Arguments) (loc : Location) : Prop :=
  ∃ l e, Locations.resolve d args.outputXml args.outputDir args.artifactsJson args.manifestPath =
    .ok l ∧ d.lookup l.manifest = .ok (loc, e)

/-- Two outcomes fail since a manifest is malformed, of which they may show different
content. -/
def BothMalformed {α β : Type} (x : Except Failure α) (x' : Except Failure β) : Prop :=
  ∃ q c c', x = .error (.malformedManifest q c) ∧ x' = .error (.malformedManifest q c')

/-- The plans are the same, for the keywords are not looked at, unless the result tree is
taken for the manifest. -/
theorem plan_of_sameSuite (h : SameSuite loc suite d d') (hmanifest : ManifestExists d args)
    (zone : Time.Zone) :
    (plan d' zone args).outcome = (plan d zone args).outcome ∨
      ManifestIn d args loc ∧
        BothMalformed (plan d zone args).outcome (plan d' zone args).outcome := by
  unfold plan
  simp only [Logged.outcome_bind]
  rw [h.alike.locations]
  cases hl : Locations.resolve d args.outputXml args.outputDir args.artifactsJson
      args.manifestPath with
  | error e => exact Or.inl rfl
  | ok l =>
    dsimp only [Logged.ofExcept, bind, Except.bind]
    rcases h.load_result zone l.outputXml with ⟨e, he, he'⟩ | ⟨r, r', hr, hr', hname⟩
    · rw [he, he']
      exact Or.inl rfl
    · rw [hr, hr']
      dsimp only
      have htitle : titleOf r' = titleOf r := by rw [titleOf, titleOf, hname]
      rw [htitle]
      rcases h.load_manifest l.manifest with heq | ⟨⟨e, hlookup⟩, c, c', hc, hc'⟩
      · left
        rw [heq]
        cases hload : (Manifest.load d l.manifest).outcome with
        | error e => rfl
        | ok manifest =>
          cases manifest with
          | none =>
            have habsent := Manifest.pathExists_of_load hload
            rw [hmanifest l hl] at habsent
            cases habsent
          | some m =>
            dsimp only [assemble, offerVideo]
            rw [Artifact.backfill_congr _ fun c _ => h.alike.pathExists c]
      · rw [hc, hc']
        exact Or.inr ⟨⟨l, e, hl, hlookup⟩, l.manifest, c, c', rfl, rfl⟩

end Conversion

/-! ## Usable manifests -/

namespace Manifest

/-- The steps among the members of a manifest, none of them if they are absent or
null. -/
def HasSteps (members : List (String × Json)) (steps : Json) : Prop :=
  members.lookup "steps" = some steps ∧ steps ≠ .null ∨
    (members.lookup "steps" = none ∨ members.lookup "steps" = some .null) ∧ steps = .array []

theorem hasSteps_stepsOf (members : List (String × Json)) :
    HasSteps members (stepsOf (.object members)) := by
  unfold stepsOf Json.member?
  split
  · next habsent => exact Or.inr ⟨Or.inl habsent, rfl⟩
  · next hnull => exact Or.inr ⟨Or.inr hnull, rfl⟩
  · next hne hsteps => exact Or.inl ⟨hsteps, hne⟩

/-- What a path leads to is no manifest: it cannot be read, it is no JSON object, or a
video path is neither a text nor null. -/
def Unusable (d : Disk) (path : Path) : Prop :=
  ∀ bytes members, d.readBytes path = .ok bytes → Json.ofBytes? bytes = some (.object members) →
    ∃ key ∈ ["videoPath", "rawVideoPath"], ∃ value, members.lookup key = some value ∧
      value ≠ .null ∧ ∀ s, value ≠ .text s

theorem textMember?_eq_none {members : List (String × Json)} {key : String} {value : Json}
    (h : members.lookup key = some value) (hnull : value ≠ .null) (htext : ∀ s, value ≠ .text s) :
    textMember? key (.object members) = none := by
  have hmember : (Json.object members).member? key = some value := h
  unfold textMember?
  rw [hmember]
  cases value <;> simp_all

theorem Unusable.load_ne {path : Path} (h : Unusable d path) (m : Manifest) :
    (load d path).outcome ≠ .ok (some m) := by
  intro hload
  obtain ⟨bytes, hbytes, hm⟩ := load_eq_some.mp hload
  obtain ⟨members, hread, hm⟩ := ofBytes_eq_ok.mp hm
  obtain ⟨hvideo, hraw, -⟩ := ofJson?_eq_some.mp hm
  obtain ⟨key, hkey, value, hvalue, hnull, htext⟩ := h bytes members hbytes hread
  have hnone := textMember?_eq_none hvalue hnull htext
  simp only [List.mem_cons, List.not_mem_nil, or_false] at hkey
  rcases hkey with rfl | rfl
  · rw [hvideo] at hnone
    cases hnone
  · rw [hraw] at hnone
    cases hnone

end Manifest

/-! ## Runs -/

namespace Conversion

theorem manifest_of_plan (hmanifest : ManifestExists d args) {p : Plan}
    (hplan : (plan d zone args).outcome = .ok p) :
    ∃ l bytes members steps,
      Locations.resolve d args.outputXml args.outputDir args.artifactsJson args.manifestPath =
        .ok l ∧
      p.destination = l.artifactsJson ∧ ¬Manifest.Unusable d l.manifest ∧
      d.readBytes l.manifest = .ok bytes ∧ Json.ofBytes? bytes = some (.object members) ∧
      Manifest.HasSteps members steps ∧ p.artifact.steps = .manifest steps := by
  obtain ⟨l, result, manifest, a, hl, -, hload, ha, rfl⟩ := plan_eq_ok hplan
  cases manifest with
  | none =>
    have habsent := Manifest.pathExists_of_load hload
    rw [hmanifest l hl] at habsent
    cases habsent
  | some m =>
    obtain ⟨bytes, hbytes, hm⟩ := Manifest.load_eq_some.mp hload
    obtain ⟨members, hread, hm⟩ := Manifest.ofBytes_eq_ok.mp hm
    obtain ⟨-, -, hsteps⟩ := Manifest.ofJson?_eq_some.mp hm
    cases ha
    refine ⟨l, bytes, members, _, hl, rfl, fun hunusable => hunusable.load_ne m hload, hbytes,
      hread, Manifest.hasSteps_stepsOf members, ?_⟩
    rw [(Artifact.backfill_eq _ d args.videoPath).2.2, ← hsteps]
    rfl

/-- A place is the destination of a run that succeeds. -/
def Publishes (d : Disk) (zone : Time.Zone) (args : Arguments) (place : Location) : Prop :=
  (run d zone args).2.outcome = .ok () ∧
    ∃ q, d.resolve args.artifactsJson = .ok q ∧ d.destination? q = some place

theorem run_of_alike_plan (halike : Disk.Alike loc d d')
    (hplan : (plan d' zone args).outcome = (plan d zone args).outcome) :
    Disk.Alike loc (run d zone args).1 (run d' zone args).1 ∧
      (run d' zone args).2.outcome = (run d zone args).2.outcome := by
  cases hp : (plan d zone args).outcome with
  | error e =>
    rw [hp] at hplan
    rw [(run_of_plan_error hp).1, (run_of_plan_error hp).2, (run_of_plan_error hplan).1,
      (run_of_plan_error hplan).2]
    exact ⟨halike, rfl⟩
  | ok p =>
    rw [hp] at hplan
    rw [(run_of_plan_ok hp).1, (run_of_plan_ok hp).2, (run_of_plan_ok hplan).1,
      (run_of_plan_ok hplan).2]
    exact halike.publish p.destination p.artifact.bytes

/-- Runs go on alike, or both stop at a result tree that is taken for the manifest. -/
theorem run_of_sameSuite (h : SameSuite loc suite d d') (hmanifest : ManifestExists d args)
    (zone : Time.Zone) :
    Disk.Alike loc (run d zone args).1 (run d' zone args).1 ∧
      ((plan d' zone args).outcome = (plan d zone args).outcome ∧
          (run d' zone args).2.outcome = (run d zone args).2.outcome ∨
        ManifestIn d args loc ∧
          BothMalformed (run d zone args).2.outcome (run d' zone args).2.outcome) := by
  rcases plan_of_sameSuite h hmanifest zone with hplan | ⟨hin, q, c, c', hp, hp'⟩
  · obtain ⟨halike, houtcome⟩ := run_of_alike_plan h.alike hplan
    exact ⟨halike, Or.inl ⟨hplan, houtcome⟩⟩
  · rw [(run_of_plan_error hp).1, (run_of_plan_error hp').1]
    exact ⟨h.alike, Or.inr ⟨hin, q, c, c', (run_of_plan_error hp).2, (run_of_plan_error hp').2⟩⟩

theorem Publishes.entryAt {place : Location} (h : Publishes d zone args place) :
    ∃ p, (plan d zone args).outcome = .ok p ∧ d.destination? p.destination = some place ∧
      (run d zone args).1.entryAt place = some (.file p.artifact.bytes) := by
  obtain ⟨hok, q, hq, hplace⟩ := h
  obtain ⟨p, loc, hplan, hloc, hentry⟩ := exists_place_of_run hok
  have hdestination : p.destination = q := by
    rw [resolve_of_plan hplan] at hq
    exact Except.ok.inj hq
  rw [hdestination, hplace] at hloc
  cases hloc
  exact ⟨p, hplan, hdestination ▸ hplace, hentry⟩

/-- Where there is a manifest, two disks that differ only in the result tree of one
suite give the same outcome, and the same place for the destination and all others,
except for a result tree that was not replaced. Where the result tree is also the manifest,
the outcomes are the same but for the content that a malformed manifest shows. A run that
succeeds takes the steps from the manifest, and where that is unusable, it fails and does
nothing. -/
theorem run_ignores_keywords (h : SameSuite loc suite d d') (hmanifest : ManifestExists d args)
    (zone : Time.Zone) :
    ((run d' zone args).2.outcome = (run d zone args).2.outcome ∨ ManifestIn d args loc ∧
      BothMalformed (run d zone args).2.outcome (run d' zone args).2.outcome) ∧
    (∀ place, place ≠ loc ∨ Publishes d zone args place →
      (run d' zone args).1.entryAt place = (run d zone args).1.entryAt place) ∧
    ((run d zone args).2.outcome = .ok () →
      ∃ (l : Locations) (bytes : ByteArray) (members : List (String × Json)) (steps : Json)
        (a : Artifact) (place : Location),
      Locations.resolve d args.outputXml args.outputDir args.artifactsJson args.manifestPath =
        .ok l ∧
      d.readBytes l.manifest = .ok bytes ∧ Json.ofBytes? bytes = some (.object members) ∧
      Manifest.HasSteps members steps ∧ a.steps = .manifest steps ∧
      Publishes d zone args place ∧
      (run d zone args).1.entryAt place = some (.file a.toJson.pretty.toUTF8)) ∧
    (∀ l, Locations.resolve d args.outputXml args.outputDir args.artifactsJson args.manifestPath =
        .ok l → Manifest.Unusable d l.manifest →
      (run d zone args).1 = d ∧ ∃ e, (run d zone args).2.outcome = .error e) := by
  obtain ⟨halike, hsame⟩ := run_of_sameSuite h hmanifest zone
  refine ⟨hsame.imp_left And.right, ?_, ?_, ?_⟩
  · rintro place (hplace | hplace)
    · exact halike.others place hplace
    · rcases hsame with ⟨hplan, houtcome⟩ | ⟨-, q, c, c', hfailed, -⟩
      · have hplace' : Publishes d' zone args place := by
          obtain ⟨hok, q, hq, hdestination⟩ := hplace
          exact ⟨houtcome.trans hok, q, (h.alike.resolve _).trans hq,
            (h.alike.destination? q).trans hdestination⟩
        obtain ⟨p, hp, -, hentry⟩ := hplace.entryAt
        obtain ⟨p', hp', -, hentry'⟩ := hplace'.entryAt
        rw [hplan, hp] at hp'
        cases hp'
        rw [hentry, hentry']
      · rw [hplace.1] at hfailed
        cases hfailed
  · intro hok
    obtain ⟨p, place, hp, hplace, hentry⟩ := exists_place_of_run hok
    obtain ⟨l, bytes, members, steps, hl, hdestination, -, hbytes, hread, hsteps, ha⟩ :=
      manifest_of_plan hmanifest hp
    exact ⟨l, bytes, members, steps, p.artifact, place, hl, hbytes, hread, hsteps, ha,
      ⟨hok, p.destination, resolve_of_plan hp, hplace⟩, hentry⟩
  · intro l hl hunusable
    cases hp : (plan d zone args).outcome with
    | error e => exact ⟨(run_of_plan_error hp).1, e, (run_of_plan_error hp).2⟩
    | ok p =>
      obtain ⟨l', bytes, members, steps, hl', -, husable, -⟩ := manifest_of_plan hmanifest hp
      rw [hl] at hl'
      cases hl'
      exact absurd hunusable husable

/-- The run replaces the result tree itself, by the same artifact whether there are
keywords or not. -/
theorem run_ignores_keywords_replaced :
    let tree := "<r/>".toUTF8
    let other := "<r><kw name=\"Doc Web Step\"><status status=\"PASS\"/></kw></r>".toUTF8
    let d : Disk := { entries := [(["run.xml"], .file tree),
      (["unity-manifest.json"], .file "\x7b\"steps\":[true]\x7d".toUTF8)], here := [] }
    let args : Arguments := ⟨"/run.xml", "/", "/run.xml", none, none, none⟩
    SameSuite ["run.xml"] none d (d.put ["run.xml"] (.file other)) ∧ ManifestExists d args ∧
      Publishes d .utc args ["run.xml"] ∧
      (run (d.put ["run.xml"] (.file other)) .utc args).1.entryAt ["run.xml"] =
        (run d .utc args).1.entryAt ["run.xml"] := by
  intro tree other d args
  have hsame : SameSuite ["run.xml"] none d (d.put ["run.xml"] (.file other)) :=
    sameSuite_put (by decide) (c := tree) (by decide +kernel)
      (RunResult.hasSuite_of_read? (by decide +kernel))
      (RunResult.hasSuite_of_read? (by decide +kernel))
  have hl : Locations.resolve d args.outputXml args.outputDir args.artifactsJson args.manifestPath =
      .ok ⟨"/run.xml", "/", "/run.xml", "/unity-manifest.json"⟩ := by decide +kernel
  have hmanifest : ManifestExists d args := by
    intro l hl'
    rw [hl] at hl'
    cases hl'
    decide +kernel
  have hplace : Publishes d .utc args ["run.xml"] :=
    ⟨by decide +kernel, "/run.xml", by decide +kernel, by decide +kernel⟩
  obtain ⟨-, hentry, -⟩ := run_ignores_keywords hsame hmanifest .utc
  exact ⟨hsame, hmanifest, hplace, hentry ["run.xml"] (Or.inr hplace)⟩

/-- A run that fails leaves its destination as it is, and that may be the result tree. -/
theorem run_keeps_unreplaced_result :
    ∃ (d d' : Disk) (args : Arguments) (q : Path), SameSuite ["run.xml"] none d d' ∧
      ManifestExists d args ∧ d.resolve args.artifactsJson = .ok q ∧
      d.destination? q = some (["run.xml"] : Location) ∧
      (run d' .utc args).1.entryAt ["run.xml"] ≠ (run d .utc args).1.entryAt ["run.xml"] := by
  let d : Disk := { entries := [(["run.xml"], .file "<r/>".toUTF8),
    (["unity-manifest.json"], .file "\x7b".toUTF8)], here := [] }
  let args : Arguments := ⟨"/run.xml", "/", "/run.xml", none, none, none⟩
  have hl : Locations.resolve d args.outputXml args.outputDir args.artifactsJson args.manifestPath =
      .ok ⟨"/run.xml", "/", "/run.xml", "/unity-manifest.json"⟩ := by decide +kernel
  refine ⟨d, d.put ["run.xml"] (.file "<r><kw/></r>".toUTF8), args, "/run.xml", ?_, fun l hl' => ?_,
    by decide +kernel⟩
  · exact sameSuite_put (by decide) (c := "<r/>".toUTF8) (by decide +kernel)
      (RunResult.hasSuite_of_read? (by decide +kernel))
      (RunResult.hasSuite_of_read? (by decide +kernel))
  · rw [hl] at hl'
    cases hl'
    decide +kernel

end Conversion
end Storyboard
