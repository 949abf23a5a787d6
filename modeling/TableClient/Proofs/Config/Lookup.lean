import TableClient.Proofs.Chain
import TableClient.Proofs.Config.BaseUrl

/-!
# Configurations Looked Up

What looking up a configuration ends with, for any source of variables.

What can be wrong with a variable is a matter of that variable alone. The two
that identify the application are at fault if they are absent or blank, and the
one for the base address if it holds anything but blanks and does not start as
the addresses of the web do. `Faulty` says which error each of these is, and
nothing is ever wrong with the others. The error of a lookup is that of the
first variable at fault, in the order of `checked`; if there is none, a
configuration is found, and `FoundBy` says which one.

A variable that may be absent says as little when it is blank. `Setting` is
what one says, and a configuration depends on nothing else of these variables:
two sources that agree on the variables that have to be there, and on what the
others say, give the same result.

The base address is one of the web before its slashes are cut off, which is
when it is looked at. `exists_schemeless_iff` tells which lookups succeed with
one that no longer is.

## Main definitions

* `Setting`: What an optional variable says.
* `BasedOn`: The base address for what its variable says.
* `Faulty`: What is wrong with a variable, if anything.
* `checked`: The variables that may be at fault, in their order.
* `FoundBy`: The configuration that some variables give.
* `Agree`: Two sources that say the same.

## Theorems

* `setting_iff`: What is kept of an optional variable is what it says.
* `failsFor_required`, `failsFor_baseUrl`, `failsFor_ofLookup`: What looking up
  fails for.
* `FoundBy.unique`, `ofLookup_eq_ok_iff`: What is found.
* `ofLookup_judges`: What looking up ends with.
* `exists_schemeless_iff`: When the base address that is found has lost its
  scheme.
-/

namespace TableClient

namespace Config

/-- What an optional variable says: nothing if it is absent or blank, and its
    value as it is otherwise. -/
inductive Setting : Option String → Option String → Prop where
  | absent : Setting none none
  | blank {value : String} (h : Text.trim value = "") : Setting (some value) none
  | valued {value : String} (h : Text.trim value ≠ "") : Setting (some value) (some value)

/-- The base address for what its variable says: the usual one if it says
    nothing, and otherwise its value without the slashes at its end. -/
inductive BasedOn : Option String → String → Prop where
  | usual : BasedOn none defaultBaseUrl
  | given {url base : String} {n : Nat} (h : url.toList = base.toList ++ List.replicate n '/')
    (hend : base.toList.getLast? ≠ some '/') : BasedOn (some url) base

/-- What is wrong with a variable: it has to be there and is absent or blank, or
    it is the base address and not one of the web. -/
inductive Faulty (lookup : Lookup) : String → Error → Prop where
  | missing {name : String} (hname : name = appIdVar ∨ name = accessKeyVar)
    (h : lookup name = none) : Faulty lookup name (.missing name)
  | blank {name value : String} (hname : name = appIdVar ∨ name = accessKeyVar)
    (h : lookup name = some value) (hblank : Text.trim value = "") :
    Faulty lookup name (.invalid name .blank)
  | notHttp {url : String} (h : Setting (lookup baseUrlVar) (some url)) (hscheme : ¬StartsHttp url) :
    Faulty lookup baseUrlVar (.invalid baseUrlVar (.notHttp url))

/-- The variables that may be at fault, in the order in which they are judged. -/
def checked : List String :=
  [appIdVar, accessKeyVar, baseUrlVar]

/-- A configuration is the one that some variables give: the values of those that
    have to be there, what the others say, and no selector and no user settings. -/
structure FoundBy (lookup : Lookup) (config : Config) : Prop where
  appId : lookup appIdVar = some config.appId
  accessKey : lookup accessKeyVar = some config.accessKey
  locale : Setting (lookup localeVar) config.properties.locale
  location : Setting (lookup locationVar) config.properties.location
  timezone : Setting (lookup timezoneVar) config.properties.timezone
  selector : config.properties.selector = none
  userSettings : config.properties.userSettings = none
  baseUrl : ∃ setting, Setting (lookup baseUrlVar) setting ∧ BasedOn setting config.baseUrl

/-- Two sources agree on the variables that have to be there, and on what the
    others say. -/
structure Agree (lookup other : Lookup) : Prop where
  required : ∀ name ∈ [appIdVar, accessKeyVar], lookup name = other name
  optional : ∀ name ∈ [localeVar, locationVar, timezoneVar, baseUrlVar],
    ∃ setting, Setting (lookup name) setting ∧ Setting (other name) setting

section

variable {lookup other : Lookup} {config : Config}

/-- What is kept of an optional variable is what it says. -/
theorem setting_iff {name : String} {setting : Option String} :
    Setting (lookup name) setting ↔ optional lookup name = setting := by
  unfold optional
  cases hvalue : lookup name with
  | none =>
      constructor
      · intro h
        cases h
        rfl
      · rintro rfl
        exact .absent
  | some value =>
      by_cases hblank : Text.trim value = ""
      · have hdrop : (some value).filter (fun value => !Text.isBlankText value) = none := by
          simp [Text.trim_eq_empty_iff.1 hblank]
        rw [hdrop]
        constructor
        · intro h
          cases h with
          | blank => rfl
          | valued h => exact absurd hblank h
        · rintro rfl
          exact .blank hblank
      · have hkeep : (some value).filter (fun value => !Text.isBlankText value) = some value := by
          have hnot : Text.isBlankText value = false :=
            Bool.eq_false_iff.2 fun h => hblank (Text.trim_eq_empty_iff.2 h)
          simp [hnot]
        rw [hkeep]
        constructor
        · intro h
          cases h with
          | blank h => exact absurd h hblank
          | valued => rfl
        · rintro rfl
          exact .valued hblank

theorem basedOn_none_iff {base : String} : BasedOn none base ↔ base = defaultBaseUrl := by
  constructor
  · intro h
    cases h
    rfl
  · rintro rfl
    exact .usual

theorem basedOn_some_iff {url base : String} :
    BasedOn (some url) base ↔ withoutTrailingSlashes url = base := by
  rw [withoutTrailingSlashes_eq_iff]
  constructor
  · intro h
    cases h with
    | given h hend => exact ⟨⟨_, h⟩, hend⟩
  · rintro ⟨⟨n, h⟩, hend⟩
    exact .given h hend

/-! ### What looking up fails for -/

/-- What can be wrong with a variable that has to be there. -/
theorem faulty_required_iff {name : String} (hname : name = appIdVar ∨ name = accessKeyVar)
    {error : Error} :
    Faulty lookup name error ↔
      (lookup name = none ∧ error = .missing name) ∨
        ∃ value, lookup name = some value ∧ Text.trim value = "" ∧
          error = .invalid name .blank := by
  -- The base address is another variable, so its fault is none of this one.
  have hother : name ≠ baseUrlVar := by rcases hname with rfl | rfl <;> decide
  constructor
  · intro h
    cases h with
    | missing _ h => exact .inl ⟨h, rfl⟩
    | blank _ h hblank => exact .inr ⟨_, h, hblank, rfl⟩
    | notHttp => exact absurd rfl hother
  · rintro (⟨h, rfl⟩ | ⟨value, h, hblank, rfl⟩)
    · exact .missing hname h
    · exact .blank hname h hblank

/-- What can be wrong with the base address. -/
theorem faulty_baseUrl_iff {error : Error} :
    Faulty lookup baseUrlVar error ↔
      ∃ url, Setting (lookup baseUrlVar) (some url) ∧ ¬StartsHttp url ∧
        error = .invalid baseUrlVar (.notHttp url) := by
  have hother : ¬(baseUrlVar = appIdVar ∨ baseUrlVar = accessKeyVar) := by decide
  constructor
  · intro h
    cases h with
    | missing hname => exact absurd hname hother
    | blank hname => exact absurd hname hother
    | notHttp h hscheme => exact ⟨_, h, hscheme, rfl⟩
  · rintro ⟨url, h, hscheme, rfl⟩
    exact .notHttp h hscheme

/-- A variable that has to be there is looked up in vain just if it is absent or
    blank. -/
theorem failsFor_required {name : String} (hname : name = appIdVar ∨ name = accessKeyVar) :
    FailsFor (required lookup name) (Faulty lookup name) := by
  intro error
  rw [faulty_required_iff hname]
  unfold required
  cases hvalue : lookup name with
  | none => simp [eq_comm (b := error)]
  | some value =>
      by_cases hblank : Text.isBlankText value = true
      · simp [hblank, Text.trim_eq_empty_iff, eq_comm (b := error)]
      · simp [hblank, Text.trim_eq_empty_iff]

/-- The base address is looked up in vain just if something is there that is no
    address of the web. -/
theorem failsFor_baseUrl : FailsFor (baseUrlOfLookup lookup) (Faulty lookup baseUrlVar) := by
  intro error
  simp only [faulty_baseUrl_iff, setting_iff, ← isHttp_iff]
  unfold baseUrlOfLookup
  cases optional lookup baseUrlVar with
  | none => simp
  | some url =>
      by_cases hhttp : isHttp url = true
      · simp [hhttp]
      · simp [hhttp, eq_comm (b := error)]

/-- Looking up fails for the first variable that is at fault, and for nothing
    else. -/
theorem failsFor_ofLookup : FailsFor (ofLookup lookup) (FirstOf (Faulty lookup) checked) := by
  unfold ofLookup checked
  refine failsFor_bind (failsFor_required (.inl rfl)) fun appId => ?_
  refine failsFor_bind (failsFor_required (.inr rfl)) fun accessKey => ?_
  exact failsFor_bind failsFor_baseUrl fun baseUrl => failsFor_ok _

/-! ### What is found -/

theorem eq_of_required {name value : String} (h : required lookup name = .ok value) :
    lookup name = some value := by
  unfold required at h
  cases hvalue : lookup name with
  | none => simp [hvalue] at h
  | some found =>
      by_cases hblank : Text.isBlankText found = true
      · simp [hvalue, hblank] at h
      · simpa [hvalue, hblank] using h

/-- The base address goes by what its variable says. -/
theorem basedOn_of_baseUrlOfLookup {base : String} (h : baseUrlOfLookup lookup = .ok base) :
    BasedOn (optional lookup baseUrlVar) base := by
  unfold baseUrlOfLookup at h
  cases hsetting : optional lookup baseUrlVar with
  | none =>
      simp only [hsetting, Except.ok.injEq] at h
      exact basedOn_none_iff.2 h.symm
  | some url =>
      by_cases hhttp : isHttp url = true
      · simp only [hsetting, hhttp, if_true, Except.ok.injEq] at h
        exact basedOn_some_iff.2 h
      · simp [hsetting, hhttp] at h

/-- The variables give a configuration at most. -/
theorem FoundBy.unique (h : FoundBy lookup config) {second : Config}
    (hsecond : FoundBy lookup second) : config = second := by
  -- Each part is a function of the variable for it.
  have hsame : ∀ {name : String} {first second : Option String},
      Setting (lookup name) first → Setting (lookup name) second → first = second := by
    intro name first second hfirst hsecond
    exact (setting_iff.1 hfirst).symm.trans (setting_iff.1 hsecond)
  have hbase : config.baseUrl = second.baseUrl := by
    rcases h.baseUrl with ⟨setting, hsetting, hbased⟩
    rcases hsecond.baseUrl with ⟨setting', hsetting', hbased'⟩
    rw [← hsame hsetting hsetting'] at hbased'
    cases setting with
    | none => exact (basedOn_none_iff.1 hbased).trans (basedOn_none_iff.1 hbased').symm
    | some url => exact (basedOn_some_iff.1 hbased).symm.trans (basedOn_some_iff.1 hbased')
  have happId : config.appId = second.appId := Option.some.inj (h.appId.symm.trans hsecond.appId)
  have hkey : config.accessKey = second.accessKey :=
    Option.some.inj (h.accessKey.symm.trans hsecond.accessKey)
  have hproperties : config.properties = second.properties := by
    rw [Properties.mk.injEq]
    exact ⟨hsame h.locale hsecond.locale, hsame h.location hsecond.location,
      hsame h.timezone hsecond.timezone, h.selector.trans hsecond.selector.symm,
      h.userSettings.trans hsecond.userSettings.symm⟩
  rw [Config.mk.injEq]
  exact ⟨happId, hkey, hproperties, hbase⟩

theorem foundBy_of_ofLookup (h : ofLookup lookup = .ok config) : FoundBy lookup config := by
  rcases ofLookup_eq_ok h with ⟨happId, hkey, hbase, hproperties⟩
  refine ⟨eq_of_required happId, eq_of_required hkey, ?_, ?_, ?_, ?_, ?_,
    optional lookup baseUrlVar, setting_iff.2 rfl, basedOn_of_baseUrlOfLookup hbase⟩
  · exact setting_iff.2 (by rw [hproperties])
  · exact setting_iff.2 (by rw [hproperties])
  · exact setting_iff.2 (by rw [hproperties])
  · rw [hproperties]
  · rw [hproperties]

/-- A lookup ends with the configuration that the variables give, if none of them
    is at fault. -/
theorem ofLookup_eq_ok_iff :
    ofLookup lookup = .ok config ↔
      (∀ name ∈ checked, ∀ error, ¬Faulty lookup name error) ∧ FoundBy lookup config := by
  rw [← forall_not_firstOf_iff, ← exists_eq_ok_iff failsFor_ofLookup]
  constructor
  · intro h
    exact ⟨⟨config, h⟩, foundBy_of_ofLookup h⟩
  · rintro ⟨⟨found, hfound⟩, h⟩
    rw [hfound, h.unique (foundBy_of_ofLookup hfound)]

/-- What looking up ends with depends on nothing but the variables that have to
    be there and what the others say. -/
theorem ofLookup_congr (h : Agree lookup other) : ofLookup other = ofLookup lookup := by
  have hrequired : ∀ name ∈ [appIdVar, accessKeyVar],
      required other name = required lookup name := by
    intro name hname
    unfold required
    rw [h.required name hname]
  have hoptional : ∀ name ∈ [localeVar, locationVar, timezoneVar, baseUrlVar],
      optional other name = optional lookup name := by
    intro name hname
    rcases h.optional name hname with ⟨setting, hsetting, hother⟩
    rw [setting_iff.1 hsetting, setting_iff.1 hother]
  unfold ofLookup baseUrlOfLookup
  rw [hrequired appIdVar (by simp), hrequired accessKeyVar (by simp),
    hoptional localeVar (by simp), hoptional locationVar (by simp),
    hoptional timezoneVar (by simp), hoptional baseUrlVar (by simp)]

end

/-- What looking up ends with. The first variable at fault is reported, whatever
    the others are. If there is none, the configuration that the variables give
    is found, and no other. Sources that say the same end with the same. -/
theorem ofLookup_judges (lookup : Lookup) :
    (∀ error, ofLookup lookup = .error error ↔ FirstOf (Faulty lookup) checked error) ∧
    ((∃ config, ofLookup lookup = .ok config) ↔
      ∀ name ∈ checked, ∀ error, ¬Faulty lookup name error) ∧
    (∀ config, ofLookup lookup = .ok config ↔
      (∀ name ∈ checked, ∀ error, ¬Faulty lookup name error) ∧ FoundBy lookup config) ∧
    (∀ url, (Error.invalid baseUrlVar (.notHttp url)).message
      = "environment variable " ++ baseUrlVar ++ " is invalid: "
        ++ ("'" ++ url ++ "' is not an http(s) URL")) ∧
    ∀ other, Agree lookup other → ofLookup other = ofLookup lookup := by
  refine ⟨failsFor_ofLookup, ?_, fun config => ofLookup_eq_ok_iff, fun url => rfl,
    fun other => ofLookup_congr⟩
  rw [← forall_not_firstOf_iff]
  exact exists_eq_ok_iff failsFor_ofLookup

/-- A locale of an ideographic space says no more than none at all, and blanks
    around the name of the application are part of it. The first of three faults
    is the one of the application. -/
theorem ofLookup_judges_blank :
    Agree
      (Dictionary.get? · [(appIdVar, " a"), (accessKeyVar, "k"), (baseUrlVar, "http://h//")])
      (Dictionary.get? · [(localeVar, "\u3000"), (appIdVar, " a"), (accessKeyVar, "k"),
        (baseUrlVar, "http://h//"), (timezoneVar, "")]) ∧
    ofLookup (Dictionary.get? · [(localeVar, "\u3000"), (appIdVar, " a"), (accessKeyVar, "k"),
        (baseUrlVar, "http://h//"), (timezoneVar, "")])
      = .ok ⟨" a", "k", Properties.empty, "http://h"⟩ ∧
    FirstOf (Faulty (Dictionary.get? · [(appIdVar, "\t"), (baseUrlVar, "h")])) checked
      (.invalid appIdVar .blank) := by
  have hagree : Agree
      (Dictionary.get? · [(appIdVar, " a"), (accessKeyVar, "k"), (baseUrlVar, "http://h//")])
      (Dictionary.get? · [(localeVar, "\u3000"), (appIdVar, " a"), (accessKeyVar, "k"),
        (baseUrlVar, "http://h//"), (timezoneVar, "")]) := by
    refine ⟨by decide, fun name hname => ?_⟩
    simp only [List.mem_cons, List.not_mem_nil, or_false] at hname
    rcases hname with rfl | rfl | rfl | rfl
    · exact ⟨none, .absent, .blank (by decide)⟩
    · exact ⟨none, .absent, .absent⟩
    · exact ⟨none, .absent, .blank (by decide)⟩
    · exact ⟨some "http://h//", .valued (by decide), .valued (by decide)⟩
  refine ⟨hagree, ?_, ((ofLookup_judges _).1 _).1 rfl⟩
  rw [(ofLookup_judges _).2.2.2.2 _ hagree]
  rfl

/-! ### Base addresses without a scheme -/

/-- A base address that is found does not end with a slash. It starts as the
    addresses of the web do, or is the scheme of one whose variable says nothing
    else. -/
theorem baseUrl_cases {lookup : Lookup} {config : Config} (h : FoundBy lookup config)
    (hsound : ∀ error, ¬Faulty lookup baseUrlVar error) :
    config.baseUrl.toList.getLast? ≠ some '/' ∧
      (StartsHttp config.baseUrl ∨
        config.baseUrl ∈ ["http:", "https:"] ∧
          ∃ url, lookup baseUrlVar = some url ∧ BareScheme url) := by
  rcases h.baseUrl with ⟨setting, hsetting, hbased⟩
  cases setting with
  | none =>
      rw [basedOn_none_iff.1 hbased]
      exact ⟨by decide, .inl (by decide)⟩
  | some url =>
      have hstart : StartsHttp url := by
        by_contra hscheme
        exact hsound _ (.notHttp hsetting hscheme)
      have hcut : withoutTrailingSlashes url = config.baseUrl := basedOn_some_iff.1 hbased
      refine ⟨(withoutTrailingSlashes_eq_iff.1 hcut).2, ?_⟩
      rw [← hcut]
      by_cases hbare : BareScheme url
      · rcases withoutTrailingSlashes_of_bareScheme hbare with ⟨scheme, hscheme, heq⟩
        refine .inr ⟨heq ▸ hscheme, url, ?_, hbare⟩
        cases hvalue : lookup baseUrlVar with
        | none => rw [hvalue] at hsetting; cases hsetting
        | some value =>
            rw [hvalue] at hsetting
            cases hsetting
            rfl
      · exact .inl (startsHttp_of_not_bareScheme hstart hbare)

/-- A bare scheme is no fault, and there is nothing else that could be wrong with
    the base address. -/
theorem not_faulty_of_bareScheme {lookup : Lookup} {url : String}
    (hvalue : lookup baseUrlVar = some url) (hbare : BareScheme url) (error : Error) :
    ¬Faulty lookup baseUrlVar error := by
  rw [faulty_baseUrl_iff]
  rintro ⟨said, hsaid, hscheme, -⟩
  rw [hvalue] at hsaid
  cases hsaid with
  | valued => exact hscheme (startsHttp_of_bareScheme hbare)

/-- The base addresses that a lookup lets through without a scheme. One is found
    if and only if the variables that have to be there are not at fault and the
    base address is a scheme with nothing but slashes behind it. The base address
    that is found never ends with a slash, and the addresses of all tables start
    as the addresses of the web do just if it does. -/
theorem exists_schemeless_iff (lookup : Lookup) :
    ((∃ config, ofLookup lookup = .ok config ∧ ¬StartsHttp config.baseUrl) ↔
      (∀ name ∈ [appIdVar, accessKeyVar], ∀ error, ¬Faulty lookup name error) ∧
        ∃ url, lookup baseUrlVar = some url ∧ BareScheme url) ∧
    ∀ config, ofLookup lookup = .ok config →
      config.baseUrl.toList.getLast? ≠ some '/' ∧
      ∀ table, StartsHttp (Client.endpoint config table) ↔ StartsHttp config.baseUrl := by
  have hcases : ∀ config, ofLookup lookup = .ok config →
      config.baseUrl.toList.getLast? ≠ some '/' ∧
        (StartsHttp config.baseUrl ∨ config.baseUrl ∈ ["http:", "https:"] ∧
          ∃ url, lookup baseUrlVar = some url ∧ BareScheme url) := by
    intro config h
    rcases ofLookup_eq_ok_iff.1 h with ⟨hsound, hfound⟩
    exact baseUrl_cases hfound (hsound baseUrlVar (by simp [checked]))
  refine ⟨⟨?_, ?_⟩, fun config h => ?_⟩
  · rintro ⟨config, h, hschemeless⟩
    have hsound := (ofLookup_eq_ok_iff.1 h).1
    rcases (hcases config h).2 with hstart | ⟨-, hbare⟩
    · exact absurd hstart hschemeless
    · refine ⟨fun name hname => hsound name ?_, hbare⟩
      exact List.mem_append_left [baseUrlVar] hname
  · rintro ⟨hrequired, url, hvalue, hbare⟩
    -- Nothing is at fault, so a configuration is found, with what is left of the scheme.
    have hsound : ∀ name ∈ checked, ∀ error, ¬Faulty lookup name error := by
      intro name hname
      rcases List.mem_append.1 (show name ∈ [appIdVar, accessKeyVar] ++ [baseUrlVar] from hname)
        with hname | hname
      · exact hrequired name hname
      · rw [List.mem_singleton.1 hname]
        exact not_faulty_of_bareScheme hvalue hbare
    rcases (exists_eq_ok_iff failsFor_ofLookup).2 (forall_not_firstOf_iff.2 hsound) with
      ⟨config, hconfig⟩
    refine ⟨config, hconfig, ?_⟩
    rcases (foundBy_of_ofLookup hconfig).baseUrl with ⟨setting, hsetting, hbased⟩
    have hstart : StartsHttp url := startsHttp_of_bareScheme hbare
    rw [hvalue] at hsetting
    cases hsetting with
    | blank hblank => exact absurd hblank (trim_ne_empty_of_startsHttp hstart)
    | valued =>
        rw [← basedOn_some_iff.1 hbased, startsHttp_iff_not_bareScheme hstart]
        exact not_not_intro hbare
  · rcases hcases config h with ⟨hend, hkept⟩
    exact ⟨hend, startsHttp_endpoint_iff (hkept.imp_right And.left)⟩

theorem exists_schemeless_https :
    ofLookup (Dictionary.get? · [(appIdVar, "a"), (accessKeyVar, "k"), (baseUrlVar, "https:////")])
      = .ok ⟨"a", "k", Properties.empty, "https:"⟩ ∧
    ¬StartsHttp (Client.endpoint ⟨"a", "k", Properties.empty, "https:"⟩ "T") := by
  have hfound : ofLookup
      (Dictionary.get? · [(appIdVar, "a"), (accessKeyVar, "k"), (baseUrlVar, "https:////")])
        = .ok ⟨"a", "k", Properties.empty, "https:"⟩ := rfl
  have hstarts := ((exists_schemeless_iff _).2 _ hfound).2 "T"
  exact ⟨hfound, mt hstarts.1 (by decide)⟩

/-- A scheme and its two slashes are taken for a base address. The slashes go, and
    the address of a table is none of the web. -/
theorem schemeless_of_slashes :
    ofLookup (Dictionary.get? · [(appIdVar, "a"), (accessKeyVar, "k"), (baseUrlVar, "http://")])
      = .ok ⟨"a", "k", Properties.empty, "http:"⟩ ∧
    ¬StartsHttp "http:" ∧
    Client.endpoint ⟨"a", "k", Properties.empty, "http:"⟩ "T" = "http:/apps/a/tables/T/Action" ∧
    ¬StartsHttp "http:/apps/a/tables/T/Action" :=
  ⟨rfl, by decide, rfl, by decide⟩

end Config

end TableClient
