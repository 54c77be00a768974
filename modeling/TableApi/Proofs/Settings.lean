/-
White space around settings.

A variable that is blank counts as one that is not set, wherever it is read
(`value?_eq_none_iff`). Numbers and the flag are read from the trimmed value,
so white space around it is not seen. Each field of the settings comes from
one variable of its own, and the log format from the one that is read last,
so the fields are compared one by one (`OthersGiven`), and the log format
decides what is left (`OthersGiven.ofVariables_eq`).

# The log format

The log format is in letters of any case, as the flag is, but it is not
trimmed. A word that names a format has no white space at its ends, so a
value that is padded with some and is not blank names none: it is refused
(`logFormat_padded`).
-/
import TableApi.Proofs.Result
import TableApi.Proofs.Text.Blank
import TableApi.Settings

namespace TableApi.Settings

open Text

variable {vars spaced : Variables} {name : String} {s : Settings}

/-- No value, or a blank one. -/
def Unset (value : Option String) : Prop := ∀ v ∈ value, isAllBlank v.toList = true

instance decidableUnset : DecidablePred Unset := fun value =>
  inferInstanceAs (Decidable (∀ v ∈ value, isAllBlank v.toList = true))

/-- The variables that hold a number or a word. -/
def spaceable : List String :=
  ["DATABASE_MAX_CONNECTION", "DATABASE_IDLE_TIMEOUT", "DATABASE_CONNECTION_TIMEOUT", "PORT",
    "SSL", "LOG_FORMAT"]

/-- The value of a variable, and the value after white space was put around
it, or after a blank value was taken for none or none for a blank one. -/
inductive Respaced (name : String) : Option String → Option String → Prop
  | same (value) : Respaced name value value
  | unset {value value'} : Unset value → Unset value' → Respaced name value value'
  | padded {v v' : String} : name ∈ spaceable → Pads v.toList v'.toList →
      Respaced name (some v) (some v')

-- ============================================================ one variable

/-- A variable has no value if it is unset, or blank. -/
theorem value?_eq_none_iff : value? vars name = none ↔ Unset (vars name) := by
  rw [value?, Option.filter_eq_none_iff]
  refine forall₂_congr fun v _ => ?_
  cases isAllBlank v.toList <;> simp

/-- Its value is its text as it is, unless that is blank. -/
theorem value?_eq_some_iff {v : String} :
    value? vars name = some v ↔ vars name = some v ∧ isAllBlank v.toList = false := by
  rw [value?, Option.filter_eq_some_iff, Bool.not_eq_true']

/-- A value is read as it was, or it is one that stands in white space. -/
theorem Respaced.value?_cases (h : Respaced name (vars name) (spaced name)) :
    value? spaced name = value? vars name
      ∨ name ∈ spaceable ∧ ∃ v v', value? vars name = some v ∧ value? spaced name = some v'
          ∧ Pads v.toList v'.toList := by
  generalize hvalue : vars name = value at h
  generalize hvalue' : spaced name = value' at h
  cases h with
  | same => exact .inl (by rw [value?, value?, hvalue, hvalue'])
  | unset hunset hunset' =>
      rw [← hvalue] at hunset
      rw [← hvalue'] at hunset'
      exact .inl ((value?_eq_none_iff.2 hunset').trans (value?_eq_none_iff.2 hunset).symm)
  | @padded v v' hname hpads =>
      rw [value?, value?, hvalue, hvalue', Option.filter_some, Option.filter_some,
        hpads.isAllBlank_eq]
      cases isAllBlank v.toList with
      | true => exact .inl rfl
      | false => exact .inr ⟨hname, v, v', rfl, rfl, hpads⟩

/-- A variable that holds free text keeps its value. -/
theorem Respaced.value?_eq (h : Respaced name (vars name) (spaced name))
    (hname : name ∉ spaceable) : value? spaced name = value? vars name :=
  h.value?_cases.resolve_right fun hin => hname hin.1

/-- A value that has been given no white space is read as it was. -/
theorem Respaced.value?_of_kept (h : Respaced name (vars name) (spaced name))
    (hkept : spaced name = vars name ∨ Unset (spaced name)) :
    value? spaced name = value? vars name := by
  rcases hkept with hsame | hunset
  · rw [value?, value?, hsame]
  · rcases h.value?_cases with hsame | ⟨-, -, w, -, hw, -⟩
    · exact hsame
    · rw [value?_eq_none_iff.2 hunset] at hw
      cases hw

/-- A number that is accepted is so with other white space around it. -/
theorem Respaced.number_eq {bound default n : Nat} (h : Respaced name (vars name) (spaced name))
    (hok : number vars name bound default = .ok n) : number spaced name bound default = .ok n := by
  rcases h.value?_cases with hsame | ⟨-, v, v', hv, hv', hpads⟩
  · rw [number, hsame]
    exact hok
  · simp only [number, hv] at hok
    simp only [number, hv', hpads.trim_eq]
    cases hn : Decimal.boundedNat? bound (trim v.toList) with
    | none => rw [hn] at hok; cases hok
    | some m => rw [hn] at hok; exact hok

/-- A flag is read alike, accepted or not. -/
theorem Respaced.flag_eq (h : Respaced name (vars name) (spaced name)) :
    flag spaced name = flag vars name := by
  rcases h.value?_cases with hsame | ⟨-, v, v', hv, hv', hpads⟩
  · rw [flag, flag, hsame]
  · simp only [flag, hv, hv', hpads.trim_eq]

-- ========================================================== the log format

/-- The formats have three names. -/
theorem mem_of_formatOfWord? {word : String} {f : LogFormat} (h : formatOfWord? word = some f) :
    word ∈ ["pretty", "text", "json"] := by
  unfold formatOfWord? at h
  split at h
  · next hpretty => exact List.mem_append_left ["json"] hpretty
  · split at h
    · next hjson => exact List.mem_append_right ["pretty", "text"] (List.mem_singleton.2 hjson)
    · cases h

/-- The words that name a format have no white space at their ends. -/
theorem trim_of_formatOfWord? {v : String} {f : LogFormat}
    (h : formatOfWord? (String.ofList (asciiLower v.toList)) = some f) :
    trim v.toList = v.toList := by
  have hwords : ∀ word ∈ ["pretty", "text", "json"], trim word.toList = word.toList := by decide
  have htrim := hwords _ (mem_of_formatOfWord? h)
  rw [String.toList_ofList, trim_asciiLower] at htrim
  have hlength := congrArg List.length htrim
  rw [asciiLower, asciiLower, List.length_map, List.length_map] at hlength
  exact trim_eq_self_of_length hlength

/-- What is read for a log format is refused as soon as it is padded. -/
theorem logFormat_padded {v v' : String} {f : LogFormat} (hok : logFormat vars name = .ok f)
    (hv : value? vars name = some v) (hv' : value? spaced name = some v')
    (hpads : Pads v.toList v'.toList) (hne : v' ≠ v) :
    logFormat spaced name = .error (.invalidValue name (String.ofList (asciiLower v'.toList))) := by
  simp only [logFormat, hv] at hok
  simp only [logFormat, hv']
  have htrim : trim v.toList = v.toList := by
    split at hok
    · next hf => exact trim_of_formatOfWord? hf
    · cases hok
  split
  · next hf =>
    have htrim' := trim_of_formatOfWord? hf
    rw [hpads.trim_eq, htrim] at htrim'
    exact absurd (String.ext htrim').symm hne
  · rfl

/-- A format that is given with other white space around it is refused. -/
theorem Respaced.logFormat_of_not_kept {f : LogFormat}
    (h : Respaced name (vars name) (spaced name)) (hok : logFormat vars name = .ok f)
    (hchanged : ¬ (spaced name = vars name ∨ Unset (spaced name))) :
    ∃ v, spaced name = some v
      ∧ logFormat spaced name
        = .error (.invalidValue name (String.ofList (asciiLower v.toList))) := by
  obtain ⟨hne, hset⟩ := not_or.1 hchanged
  rw [← value?_eq_none_iff] at hset
  obtain ⟨w, hw⟩ := Option.ne_none_iff_exists'.1 hset
  have hspaced : spaced name = some w := (value?_eq_some_iff.1 hw).1
  rcases h.value?_cases with hsame | ⟨-, v, v', hv, hv', hpads⟩
  · exact absurd (hspaced.trans (value?_eq_some_iff.1 (hsame ▸ hw)).1.symm) hne
  · obtain rfl := Option.some.inj (hv'.symm.trans hw)
    refine ⟨v', hspaced, logFormat_padded hok hv hv' hpads ?_⟩
    rintro rfl
    exact hne (hspaced.trans (value?_eq_some_iff.1 hv).1.symm)

-- ============================================================ all settings

/-- The settings beside the log format are what the variables give, each by
its own. -/
structure OthersGiven (vars : Variables) (s : Settings) : Prop where
  url : required vars "DATABASE_URL" = .ok s.database.url
  maxConnections :
    number vars "DATABASE_MAX_CONNECTION" nat32Max 10 = .ok s.database.maxConnections
  idleTimeout : number vars "DATABASE_IDLE_TIMEOUT" nat64Max 10000 = .ok s.database.idleTimeout
  connectTimeout :
    number vars "DATABASE_CONNECTION_TIMEOUT" nat64Max 10000 = .ok s.database.connectTimeout
  ssl : flag vars "SSL" = .ok s.database.ssl
  port : number vars "PORT" nat16Max 4000 = .ok s.server.port
  host : (value? vars "HOST").getD "0.0.0.0" = s.server.host
  directory : value? vars "LOG_DIR" = s.log.directory
  filter : (value? vars "LOG_LEVEL").getD "info" = s.log.filter

/-- With the other settings given, the log format decides. -/
theorem OthersGiven.ofVariables_eq (h : OthersGiven vars s) :
    ofVariables vars = (logFormat vars "LOG_FORMAT").map fun format =>
      { s with log := { s.log with format } } := by
  unfold ofVariables
  rw [h.url, h.maxConnections, h.idleTimeout, h.connectTimeout, h.ssl, h.port, h.host,
    h.directory, h.filter]
  rfl

/-- Settings are accepted if the format is and everything else is. -/
theorem ofVariables_eq_ok_iff : ofVariables vars = .ok s ↔
    OthersGiven vars s ∧ logFormat vars "LOG_FORMAT" = .ok s.log.format := by
  constructor
  · intro h
    unfold ofVariables at h
    obtain ⟨url, hurl, h⟩ := bind_eq_ok h
    obtain ⟨maxConnections, hmax, h⟩ := bind_eq_ok h
    obtain ⟨idleTimeout, hidle, h⟩ := bind_eq_ok h
    obtain ⟨connectTimeout, hconnect, h⟩ := bind_eq_ok h
    obtain ⟨ssl, hssl, h⟩ := bind_eq_ok h
    obtain ⟨port, hport, h⟩ := bind_eq_ok h
    obtain ⟨format, hformat, h⟩ := bind_eq_ok h
    obtain rfl := Except.ok.inj h
    exact ⟨⟨hurl, hmax, hidle, hconnect, hssl, hport, rfl, rfl, rfl⟩, hformat⟩
  · rintro ⟨hothers, hformat⟩
    rw [hothers.ofVariables_eq, hformat]
    rfl

/-- Variables that are read alike give the same result. -/
theorem ofVariables_congr (h : ∀ name, value? spaced name = value? vars name) :
    ofVariables spaced = ofVariables vars := by
  unfold ofVariables required number flag logFormat
  simp only [h]

/-- Everything but the format may have other white space around it. -/
theorem OthersGiven.respaced (h : OthersGiven vars s)
    (hspace : ∀ name, Respaced name (vars name) (spaced name)) : OthersGiven spaced s where
  url := by
    rw [required, (hspace _).value?_eq (by decide)]
    exact h.url
  maxConnections := (hspace _).number_eq h.maxConnections
  idleTimeout := (hspace _).number_eq h.idleTimeout
  connectTimeout := (hspace _).number_eq h.connectTimeout
  ssl := (hspace _).flag_eq.trans h.ssl
  port := (hspace _).number_eq h.port
  host := by
    rw [(hspace _).value?_eq (by decide)]
    exact h.host
  directory := ((hspace _).value?_eq (by decide)).trans h.directory
  filter := by
    rw [(hspace _).value?_eq (by decide)]
    exact h.filter

/-- A blank value counts as none, in all variables and also where the
settings are refused. White space around numbers, the flag and the log format
leaves settings as they are exactly if the log format has been given none;
otherwise they are refused for it. -/
theorem spaces_ignored_iff (vars spaced : Variables) :
    ((∀ name, spaced name = vars name ∨ Unset (vars name) ∧ Unset (spaced name)) →
        ofVariables spaced = ofVariables vars)
      ∧ ∀ s, ofVariables vars = .ok s → (∀ name, Respaced name (vars name) (spaced name)) →
        (ofVariables spaced = .ok s ↔
            spaced "LOG_FORMAT" = vars "LOG_FORMAT" ∨ Unset (spaced "LOG_FORMAT"))
          ∧ (¬ (spaced "LOG_FORMAT" = vars "LOG_FORMAT" ∨ Unset (spaced "LOG_FORMAT")) →
              ∃ v, spaced "LOG_FORMAT" = some v ∧ ofVariables spaced = .error
                (.invalidValue "LOG_FORMAT" (String.ofList (asciiLower v.toList)))) := by
  constructor
  · intro hblank
    refine ofVariables_congr fun name => ?_
    rcases hblank name with hsame | ⟨hunset, hunset'⟩
    · rw [value?, value?, hsame]
    · rw [value?_eq_none_iff.2 hunset, value?_eq_none_iff.2 hunset']
  · intro s hok hspace
    obtain ⟨hothers, hformat⟩ := ofVariables_eq_ok_iff.1 hok
    have hothers' := hothers.respaced hspace
    have hrefused : ¬ (spaced "LOG_FORMAT" = vars "LOG_FORMAT" ∨ Unset (spaced "LOG_FORMAT")) →
        ∃ v, spaced "LOG_FORMAT" = some v ∧ ofVariables spaced = .error
          (.invalidValue "LOG_FORMAT" (String.ofList (asciiLower v.toList))) := by
      intro hchanged
      obtain ⟨v, hv, hformat'⟩ := (hspace "LOG_FORMAT").logFormat_of_not_kept hformat hchanged
      refine ⟨v, hv, ?_⟩
      rw [hothers'.ofVariables_eq, hformat']
      rfl
    refine ⟨⟨fun hok' => ?_, fun hkept => ?_⟩, hrefused⟩
    · by_contra hchanged
      obtain ⟨v, -, herror⟩ := hrefused hchanged
      rw [hok'] at herror
      cases herror
    · refine ofVariables_eq_ok_iff.2 ⟨hothers', ?_⟩
      rw [logFormat, (hspace "LOG_FORMAT").value?_of_kept hkept]
      exact hformat

/-- Variables of which one is given white space. -/
theorem Respaced.update {value : Option String} (h : Respaced name (vars name) value)
    (other : String) : Respaced other (vars other) (Function.update vars name value other) := by
  by_cases hname : other = name
  · subst hname
    rwa [Function.update_self]
  · rw [Function.update_of_ne hname]
    exact .same _

/-- A database and a log format, and nothing else. -/
def databaseAndFormat : Variables := fun name =>
  if name = "DATABASE_URL" then some "x" else if name = "LOG_FORMAT" then some "json" else none

/-- A blank host for none, white space around the port, and white space
before the log format. -/
theorem spaces_ignored_around_port :
    let s : Settings := ⟨⟨"x", 10, 10000, 10000, false⟩, ⟨"0.0.0.0", 80⟩, ⟨.json, none, "info"⟩⟩
    let vars := Function.update databaseAndFormat "PORT" (some "80")
    let hosted := Function.update vars "HOST" (some " ")
    let spaced := Function.update vars "PORT" (some " 80\t")
    let padded := Function.update vars "LOG_FORMAT" (some " json")
    ofVariables vars = .ok s
      ∧ ((∀ name, hosted name = vars name ∨ Unset (vars name) ∧ Unset (hosted name))
          ∧ ofVariables hosted = ofVariables vars)
      ∧ ((∀ name, Respaced name (vars name) (spaced name)) ∧ ofVariables spaced = .ok s)
      ∧ (∀ name, Respaced name (vars name) (padded name))
      ∧ ofVariables padded = .error (.invalidValue "LOG_FORMAT" " json") := by
  intro s vars hosted spaced padded
  have hok : ofVariables vars = .ok s := by rfl
  have hhosted : ∀ name, hosted name = vars name ∨ Unset (vars name) ∧ Unset (hosted name) := by
    intro name
    by_cases hname : name = "HOST"
    · subst hname
      exact .inr ⟨by decide, by decide⟩
    · exact .inl (Function.update_of_ne hname _ _)
  have hspaced : ∀ name, Respaced name (vars name) (spaced name) :=
    Respaced.update (.padded (by decide) ⟨[' '], ['\t'], rfl, rfl, rfl⟩)
  have hpadded : ∀ name, Respaced name (vars name) (padded name) :=
    Respaced.update (.padded (by decide) ⟨[' '], [], rfl, rfl, rfl⟩)
  refine ⟨hok, ⟨hhosted, (spaces_ignored_iff vars hosted).1 hhosted⟩, ⟨hspaced,
    ((spaces_ignored_iff vars spaced).2 s hok hspaced).1.2 (.inl rfl)⟩, hpadded, ?_⟩
  obtain ⟨v, hv, herror⟩ := ((spaces_ignored_iff vars padded).2 s hok hpadded).2 (by decide)
  obtain rfl := Option.some.inj hv
  exact herror

/-- White space before a log format: the settings can be read without it and
are refused with it. -/
theorem spaced_format_is_refused :
    let spaced := Function.update databaseAndFormat "LOG_FORMAT" (some " json")
    (∃ s, ofVariables databaseAndFormat = .ok s)
      ∧ (∀ name, Respaced name (databaseAndFormat name) (spaced name))
      ∧ ofVariables spaced = .error (.invalidValue "LOG_FORMAT" " json") := by
  intro spaced
  refine ⟨⟨⟨⟨"x", 10, 10000, 10000, false⟩, ⟨"0.0.0.0", 4000⟩, ⟨.json, none, "info"⟩⟩, rfl⟩, ?_,
    rfl⟩
  exact Respaced.update (.padded (by decide) ⟨[' '], [], rfl, rfl, rfl⟩)

end TableApi.Settings
