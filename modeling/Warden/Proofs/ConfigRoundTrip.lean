import Warden.Proofs.ExactIntegers
import Warden.Proofs.RelaxedRefusal
import Warden.Settings.Load

/-!
# A saved configuration loads back

`Config.fileText` writes a configuration as pretty JSON, and `Config.load` reads a file in the
relaxed syntax and then validates it. The two meet on every valid configuration whose counts are
exact in binary64 (at most 2^53; validation bounds the session lifetime anyway), but one: the
writer leaves U+2028 and U+2029 raw inside a string, and the relaxed syntax takes them for line
terminators, which a string may not hold raw. So such a configuration loads back from its own file
text exactly when none of its texts holds one (`Config.load_fileText`); otherwise the file is
refused as it is read (`Config.load_fileText_refused`). The bound on counts is needed too, since
numbers are read as binary64 and a count past 2^53 may come back rounded.

The proof reads the parse tree that `Relaxed.parse_prettyText` gives: one lemma for each
decoder, three for the record reader `Shape.read`, then one for each group of settings. The
refusal comes from `Relaxed.parse_prettyText_refused`, at the first group that holds a separator.
-/

namespace Warden

namespace Relaxed

variable {input : Array Char}

/-! ## Decoders on nodes that stand for values -/

theorem readText_of_stands {n : Node} {s : String} (expected : String) (h : Stands input n (.str s)) :
    readText expected input n = .ok s := by
  cases h with
  | str hp =>
    unfold readText
    simp only [Node.seen, Node.rule, Node.unquote, Node.children, hp]
    rfl

theorem mapM_readText {ns : List Node} {ss : List String} (expected : String)
    (h : StandAll input ns (ss.map .str)) : ns.mapM (readText expected input) = .ok ss := by
  induction ss generalizing ns with
  | nil =>
    cases h
    rfl
  | cons s ss ih =>
    cases h with
    | cons hn hns =>
      rw [List.mapM_cons, readText_of_stands expected hn, ih hns]
      rfl

theorem readList_texts {n : Node} {ss : List String} (expected : String)
    (h : Stands input n (.arr (ss.map .str))) : readList (readText expected input) input n = .ok ss := by
  cases h with
  | arr hall =>
    unfold readList
    simp only [Node.seen, Node.rule, Node.children]
    dsimp only [bind, Except.bind]
    exact mapM_readText expected hall

theorem readOption_texts {n : Node} {d : Option String} (expected : String)
    (h : Stands input n (Json.ofOption d)) : readOption (readText expected input) n = .ok d := by
  cases d with
  | none =>
    cases h
    rfl
  | some t =>
    cases h with
    | str hp =>
      unfold readOption
      rw [if_neg (by simp [Node.rule]), readText_of_stands expected (.str hp)]
      rfl

theorem readVariant_of_stands {n : Node} {s : String} (names : List String) {k : Nat}
    (h : Stands input n (.str s)) (hk : names.findIdx? (· == s) = some k) :
    readVariant names input n = .ok k := by
  cases h with
  | str hp =>
    unfold readVariant
    simp only [Node.rule, Node.unquote, Node.children, hp]
    dsimp only [bind, Except.bind]
    rw [hk]

theorem readBool_of_stands {n : Node} {b : Bool} (h : Stands input n (.bool b)) :
    readBool input n = .ok b := by
  cases h with
  | bool ht =>
    unfold readBool
    simp only [Node.seen, Node.rule, ht]
    cases b <;> rfl

/-- A count up to 2^53 is read back exactly. -/
theorem readU64_of_stands {n : Node} {m : Nat} (h : Stands input n (.int m)) (h0 : 0 < m)
    (hm : m ≤ Binary64.twoPow53) : readU64 input n = .ok m := by
  cases h with
  | int ht =>
    unfold readU64
    rw [ht, parseNumber_toString h0 hm]
    simp only [Functor.map, Except.map, Binary64.toU64Saturating_ofNat h0 hm]

theorem readI64_of_stands {n : Node} {t : Int} (h : Stands input n (.int t)) (h0 : 0 < t)
    (ht : t ≤ Binary64.twoPow53) : readI64 input n = .ok t := by
  obtain ⟨m, rfl⟩ : ∃ m : Nat, t = m := ⟨t.toNat, by omega⟩
  cases h with
  | int htext =>
    unfold readI64
    rw [htext, parseNumber_toString (by omega) (by omega)]
    simp only [Functor.map, Except.map, Binary64.toI64Saturating_ofNat (n := m) (by omega) (by omega)]

/-! ## Records -/

namespace Shape

theorem byName_nil (s : Shape σ) (st : σ) (seen : List String) :
    s.byName input [] st seen = .ok (st, seen) := rfl

/-- One member of a record: a key the record has and has not seen, whose field reads the value. -/
theorem byName_cons {s : Shape σ} {i j : Nat} {parts : List Node} {v : Node} {rest : List Node}
    {st t : σ} {seen : List String} {name : String} {f : Field σ}
    (hk : partsText input parts = .ok name) (hf : s.fields.find? (·.name == name) = some f)
    (hseen : seen.contains name = false) (hread : f.read st v = .ok t) :
    s.byName input (Node.mk .string i j parts :: v :: rest) st seen =
      s.byName input rest t (name :: seen) := by
  rw [byName]
  simp only [Node.unquote, Node.children, hk]
  dsimp only [bind, Except.bind]
  rw [hf]
  dsimp only
  rw [if_neg (by rw [hseen]; exact Bool.false_ne_true), hread]

/-- A record whose fields all have defaults is what its members make of the initial state. -/
theorem read_object {s : Shape σ} (hdef : ∀ f ∈ s.fields, f.absent = .defaulted) {i j : Nat}
    {ns : List Node} {st : σ} (h : ∃ seen, s.byName input ns s.init [] = .ok (st, seen)) :
    s.read input (Node.mk .object i j ns) = .ok st := by
  obtain ⟨seen, h⟩ := h
  have hnone : s.fields.find? (fun f => f.absent = .required && !seen.contains f.name) = none := by
    rw [List.find?_eq_none]
    intro f hf
    simp [hdef f hf]
  unfold read
  simp only [Node.seen, Node.rule, Node.children]
  dsimp only [bind, Except.bind]
  rw [h]
  dsimp only
  rw [hnone]

end Shape

end Relaxed

namespace Config

open Relaxed

variable {input : Array Char}

/-- What validation asks of a configuration. -/
theorem validate_eq_ok {c : Config} :
    c.validate = .ok () ↔ 0 < c.auth.sessionTtlDays ∧ c.auth.sessionTtlDays ≤ maxSessionTtlDays ∧
      0 < c.gateway.tokenTtlSeconds ∧ 0 < c.defaultPageSize ∧ 0 < c.timeouts.gatewaySecs ∧
      0 < c.timeouts.loginSecs := by
  unfold validate
  split_ifs <;> simp_all <;> omega

/-- The texts of a configuration, in the order of its file: the super-admin emails, the session
prefix, the allowed model ids and the data directory. -/
def texts (c : Config) : List String :=
  c.auth.superAdminEmails ++ c.auth.sessionPrefix :: c.gateway.allowedModelIds ++ c.dataDir.toList

/-- The counts of a configuration that validation does not bound from above. -/
def counts (c : Config) : List Int :=
  [c.gateway.tokenTtlSeconds, c.defaultPageSize, c.timeouts.gatewaySecs, c.timeouts.loginSecs]

/-! ## One group at a time -/

theorem relaxedAuth_read {a : AuthSettings} {n : Node} (h : Stands input n (authJson a))
    (h0 : 0 < a.sessionTtlDays) (hb : a.sessionTtlDays ≤ Binary64.twoPow53) :
    (relaxedAuth input).read input n = .ok a := by
  rw [authJson] at h
  rcases h with _ | _ | _ | _ | _ | ⟨_ | ⟨hk₁, hv₁, _ | ⟨hk₂, hv₂, _ | ⟨hk₃, hv₃, _ | _⟩⟩⟩⟩
  refine Shape.read_object (by simp [relaxedAuth]) ⟨?_, ?_⟩
  rotate_left
  rw [Shape.byName_cons hk₁ rfl rfl (by dsimp only [relaxedAuth]; rw [readU64_of_stands hv₁ h0 hb]; rfl),
    Shape.byName_cons hk₂ rfl rfl (by dsimp only [relaxedAuth, relaxedTexts]; rw [readList_texts _ hv₂]; rfl),
    Shape.byName_cons hk₃ rfl rfl (by dsimp only [relaxedAuth]; rw [readText_of_stands _ hv₃]; rfl),
    Shape.byName_nil]

theorem relaxedGateway_read {g : GatewaySettings} {n : Node} (h : Stands input n (gatewayJson g))
    (h0 : 0 < g.tokenTtlSeconds) (hb : g.tokenTtlSeconds ≤ Binary64.twoPow53) :
    (relaxedGateway input).read input n = .ok g := by
  rw [gatewayJson] at h
  rcases h with _ | _ | _ | _ | _ | ⟨_ | ⟨hk₁, hv₁, _ | ⟨hk₂, hv₂, _ | _⟩⟩⟩
  refine Shape.read_object (by simp [relaxedGateway]) ⟨?_, ?_⟩
  rotate_left
  rw [Shape.byName_cons hk₁ rfl rfl (by dsimp only [relaxedGateway]; rw [readI64_of_stands hv₁ h0 hb]; rfl),
    Shape.byName_cons hk₂ rfl rfl
      (by dsimp only [relaxedGateway, relaxedTexts]; rw [readList_texts _ hv₂]; rfl),
    Shape.byName_nil]

theorem relaxedListing_read {k : Nat} {n : Node} (h : Stands input n (.obj [("defaultPageSize", .int k)]))
    (h0 : 0 < k) (hb : k ≤ Binary64.twoPow53) :
    (relaxedListing input).read input n = .ok k := by
  rcases h with _ | _ | _ | _ | _ | ⟨_ | ⟨hk₁, hv₁, _ | _⟩⟩
  refine Shape.read_object (by simp [relaxedListing]) ⟨?_, ?_⟩
  rotate_left
  rw [Shape.byName_cons hk₁ rfl rfl (by dsimp only [relaxedListing]; rw [readU64_of_stands hv₁ h0 hb]),
    Shape.byName_nil]

theorem relaxedTimeouts_read {t : TimeoutSettings} {n : Node}
    (h : Stands input n (.obj [("gatewaySecs", .int t.gatewaySecs), ("loginSecs", .int t.loginSecs)]))
    (h0 : 0 < t.gatewaySecs) (hb : t.gatewaySecs ≤ Binary64.twoPow53)
    (h0' : 0 < t.loginSecs) (hb' : t.loginSecs ≤ Binary64.twoPow53) :
    (relaxedTimeouts input).read input n = .ok t := by
  rcases h with _ | _ | _ | _ | _ | ⟨_ | ⟨hk₁, hv₁, _ | ⟨hk₂, hv₂, _ | _⟩⟩⟩
  refine Shape.read_object (by simp [relaxedTimeouts]) ⟨?_, ?_⟩
  rotate_left
  rw [Shape.byName_cons hk₁ rfl rfl (by dsimp only [relaxedTimeouts]; rw [readU64_of_stands hv₁ h0 hb]; rfl),
    Shape.byName_cons hk₂ rfl rfl (by dsimp only [relaxedTimeouts]; rw [readU64_of_stands hv₂ h0' hb']; rfl),
    Shape.byName_nil]

theorem relaxedStorage_read {d : Option String} {n : Node}
    (h : Stands input n (.obj [("dataDir", .ofOption d)])) :
    (relaxedStorage input).read input n = .ok d := by
  rcases h with _ | _ | _ | _ | _ | ⟨_ | ⟨hk₁, hv₁, _ | _⟩⟩
  refine Shape.read_object (by simp [relaxedStorage]) ⟨?_, ?_⟩
  rotate_left
  rw [Shape.byName_cons hk₁ rfl rfl (by dsimp only [relaxedStorage]; rw [readOption_texts _ hv₁]),
    Shape.byName_nil]

theorem relaxedGlobal_read {g : GlobalSettings} {n : Node}
    (h : Stands input n (.obj [("debug", .bool g.debug), ("logFormat", .str g.logFormat.name)])) :
    (relaxedGlobal input).read input n = .ok g := by
  rcases h with _ | _ | _ | _ | _ | ⟨_ | ⟨hk₁, hv₁, _ | ⟨hk₂, hv₂, _ | _⟩⟩⟩
  refine Shape.read_object (by simp [relaxedGlobal]) ⟨["logFormat", "debug"], ?_⟩
  rw [Shape.byName_cons hk₁ rfl rfl (by dsimp only [relaxedGlobal]; rw [readBool_of_stands hv₁]; rfl)]
  -- the format is read as its index among the names
  obtain ⟨debug, format⟩ := g
  cases format <;>
  · rw [Shape.byName_cons hk₂ rfl rfl (by dsimp only [relaxedGlobal]; rw [readVariant_of_stands _ hv₂ rfl]; rfl),
      Shape.byName_nil]
    rfl

/-- A valid configuration with exact counts is read from any node that stands for its JSON form. -/
theorem relaxedShape_read {c : Config} {n : Node} (h : Stands input n c.toJson)
    (hvalid : c.validate = .ok ()) (hcounts : ∀ k ∈ c.counts, k ≤ Binary64.twoPow53) :
    (relaxedShape input).read input n = .ok c := by
  obtain ⟨hdays, hdays', htoken, hpage, hgw, hlogin⟩ := validate_eq_ok.mp hvalid
  simp only [counts, List.mem_cons, List.not_mem_nil, forall_eq_or_imp, or_false, forall_eq] at hcounts
  obtain ⟨htoken', hpage', hgw', hlogin'⟩ := hcounts
  have hdays'' : c.auth.sessionTtlDays ≤ Binary64.twoPow53 := by
    unfold maxSessionTtlDays at hdays'
    unfold Binary64.twoPow53
    omega
  rw [toJson] at h
  rcases h with _ | _ | _ | _ | _ | ⟨_ | ⟨hk₁, hv₁, _ | ⟨hk₂, hv₂, _ | ⟨hk₃, hv₃, _ | ⟨hk₄, hv₄, _ | ⟨hk₅, hv₅,
    _ | ⟨hk₆, hv₆, _ | _⟩⟩⟩⟩⟩⟩⟩
  refine Shape.read_object (by simp [relaxedShape]) ⟨?_, ?_⟩
  rotate_left
  rw [Shape.byName_cons hk₁ rfl rfl (by dsimp only [relaxedShape]; rw [relaxedAuth_read hv₁ hdays hdays'']; rfl),
    Shape.byName_cons hk₂ rfl rfl (by dsimp only [relaxedShape]; rw [relaxedGateway_read hv₂ htoken htoken']; rfl),
    Shape.byName_cons hk₃ rfl rfl (by dsimp only [relaxedShape]; rw [relaxedListing_read hv₃ hpage (by omega)]; rfl),
    Shape.byName_cons hk₄ rfl rfl
      (by dsimp only [relaxedShape]; rw [relaxedTimeouts_read hv₄ hgw (by omega) hlogin (by omega)]; rfl),
    Shape.byName_cons hk₅ rfl rfl (by dsimp only [relaxedShape]; rw [relaxedStorage_read hv₅]; rfl),
    Shape.byName_cons hk₆ rfl rfl (by dsimp only [relaxedShape]; rw [relaxedGlobal_read hv₆]; rfl),
    Shape.byName_nil]

/-! ## The file text -/

theorem noLineSeparator_name (f : LogFormat) : Json.NoLineSeparator f.name := by
  cases f <;> decide

/-- The JSON form of a configuration is relaxable exactly when its texts hold no line
separator: its keys are fixed and plain, and its numbers are integers. -/
theorem relaxable_toJson_iff {c : Config} :
    Json.Relaxable c.toJson ↔ ∀ s ∈ c.texts, Json.NoLineSeparator s := by
  have hdir : (Json.ofOption c.dataDir).Relaxable ↔ ∀ d ∈ c.dataDir.toList, Json.NoLineSeparator d := by
    cases c.dataDir <;> simp [Json.ofOption]
  simp +decide [toJson, authJson, gatewayJson, noLineSeparator_name, hdir, texts, or_imp, forall_and, and_assoc]

/-- A valid configuration whose texts hold no U+2028 or U+2029 and whose counts are at most 2^53
is what loading its own file text gives. -/
theorem load_fileText_of_texts {c : Config} (hvalid : c.validate = .ok ())
    (htexts : ∀ s ∈ c.texts, Json.NoLineSeparator s) (hcounts : ∀ k ∈ c.counts, k ≤ Binary64.twoPow53) :
    load (fileText c) = .ok c := by
  obtain ⟨n, hparse, hn⟩ := parse_prettyText (relaxable_toJson_iff.mpr htexts)
  have hread := relaxedShape_read hn hvalid hcounts
  unfold load ofText Relaxed.readDocument check fileText
  dsimp only
  rw [hparse]
  dsimp only
  rw [hread]
  dsimp only [bind, Except.bind]
  rw [hvalid]
  rfl

theorem relaxable_authJson {a : AuthSettings} : Json.Relaxable (authJson a) ↔
    (∀ s ∈ a.superAdminEmails, Json.NoLineSeparator s) ∧ Json.NoLineSeparator a.sessionPrefix := by
  simp +decide [authJson]

theorem relaxable_gatewayJson {g : GatewaySettings} :
    Json.Relaxable (gatewayJson g) ↔ ∀ s ∈ g.allowedModelIds, Json.NoLineSeparator s := by
  simp +decide [gatewayJson]

theorem refused_authJson {a : AuthSettings} (h : ¬ Json.Relaxable (authJson a)) : Json.Refused (authJson a) := by
  rw [relaxable_authJson] at h
  by_cases hemails : ∀ s ∈ a.superAdminEmails, Json.NoLineSeparator s
  · have hprefix : ¬ Json.NoLineSeparator a.sessionPrefix := fun hp => h ⟨hemails, hp⟩
    exact .obj_cons (by decide) (.int _) (.obj_cons (by decide) (by simpa using hemails)
      (.obj_head (by decide) (.str hprefix)))
  · exact .obj_cons (by decide) (.int _) (.obj_head (by decide) (Json.refused_texts hemails))

theorem refused_gatewayJson {g : GatewaySettings} (h : ¬ Json.Relaxable (gatewayJson g)) :
    Json.Refused (gatewayJson g) := by
  rw [relaxable_gatewayJson] at h
  exact .obj_cons (by decide) (.int _) (.obj_head (by decide) (Json.refused_texts h))

/-- The JSON form of a configuration with a line separator in one of its texts is refused at the
first group that holds one. -/
theorem refused_toJson {c : Config} (h : ¬ ∀ s ∈ c.texts, Json.NoLineSeparator s) : Json.Refused c.toJson := by
  rw [← relaxable_toJson_iff] at h
  by_cases hauth : Json.Relaxable (authJson c.auth)
  · by_cases hgateway : Json.Relaxable (gatewayJson c.gateway)
    · -- the groups before the storage read back, so the data directory holds the separator
      obtain ⟨d, hd, hsep⟩ : ∃ d, c.dataDir = some d ∧ ¬ Json.NoLineSeparator d := by
        cases hd : c.dataDir with
        | none => exact absurd (by simp +decide [toJson, hauth, hgateway, hd, Json.ofOption, noLineSeparator_name]) h
        | some d =>
          refine ⟨d, rfl, fun hs => h ?_⟩
          simp +decide [toJson, hauth, hgateway, hd, Json.ofOption, hs, noLineSeparator_name]
      rw [toJson, hd]
      exact .obj_cons (by decide) hauth (.obj_cons (by decide) hgateway (.obj_cons (by decide) (by simp +decide)
        (.obj_cons (by decide) (by simp +decide) (.obj_head (by decide) (.obj_head (by decide) (.str hsep))))))
    · exact .obj_cons (by decide) hauth (.obj_head (by decide) (refused_gatewayJson hgateway))
  · exact .obj_head (by decide) (refused_authJson hauth)

/-- A configuration with a line separator in one of its texts does not load from its own file
text: its file is no document of the relaxed syntax. -/
theorem load_fileText_refused {c : Config} (h : ¬ ∀ s ∈ c.texts, Json.NoLineSeparator s) :
    ∃ m, load (fileText c) = .error (.parse m) := by
  obtain ⟨e, he⟩ := parse_prettyText_refused (refused_toJson h)
  unfold load ofText Relaxed.readDocument fileText
  dsimp only
  rw [he]
  exact ⟨_, rfl⟩

/-- **A saved configuration loads back exactly when its texts hold no line separator.** A valid
configuration whose counts are at most 2^53 is what loading its own file text gives if and only
if none of its texts holds U+2028 or U+2029. -/
theorem load_fileText {c : Config} (hvalid : c.validate = .ok ())
    (hcounts : ∀ k ∈ c.counts, k ≤ Binary64.twoPow53) :
    load (fileText c) = .ok c ↔ ∀ s ∈ c.texts, Json.NoLineSeparator s := by
  constructor
  · intro hload
    by_contra h
    obtain ⟨m, hm⟩ := load_fileText_refused h
    rw [hm] at hload
    cases hload
  · intro htexts
    exact load_fileText_of_texts hvalid htexts hcounts

theorem load_fileText_of_sample :
    (⟨⟨30, ["root@example.org"], "warden:"⟩, ⟨7200, ["gpt-4o"]⟩, 25, ⟨3, 4⟩, some "/srv/warden", ⟨true, .json⟩⟩ :
      Config).validate = .ok () ∧
    (∀ k ∈ (⟨⟨30, ["root@example.org"], "warden:"⟩, ⟨7200, ["gpt-4o"]⟩, 25, ⟨3, 4⟩, some "/srv/warden",
      ⟨true, .json⟩⟩ : Config).counts, k ≤ Binary64.twoPow53) ∧
    (load (fileText ⟨⟨30, ["root@example.org"], "warden:"⟩, ⟨7200, ["gpt-4o"]⟩, 25, ⟨3, 4⟩, some "/srv/warden",
      ⟨true, .json⟩⟩) =
      .ok ⟨⟨30, ["root@example.org"], "warden:"⟩, ⟨7200, ["gpt-4o"]⟩, 25, ⟨3, 4⟩, some "/srv/warden", ⟨true, .json⟩⟩ ↔
    ∀ s ∈ (⟨⟨30, ["root@example.org"], "warden:"⟩, ⟨7200, ["gpt-4o"]⟩, 25, ⟨3, 4⟩, some "/srv/warden",
      ⟨true, .json⟩⟩ : Config).texts, Json.NoLineSeparator s) :=
  ⟨rfl, by decide, load_fileText rfl (by decide)⟩

/-- The default configuration with U+2028 inside its session prefix is saved with the separator
raw, and its file does not load back. -/
theorem load_fileText_refuses_line_separator :
    ∃ m, load (fileText { default with auth := { defaultAuth with sessionPrefix := "a\u2028b" } }) =
      .error (.parse m) :=
  load_fileText_refused (by decide)

end Config

end Warden
