import Metering.Config.Load

/-!
Lengths of time on their way from a file into a configuration. A number that no span can hold ends the
program, and a count of seconds from 2⁶³ on is taken for a negative one, for which only the delay before
the cutover is checked. Apart from that a configuration that is accepted has the lengths of its file
(`Config.load_lengths`).
-/
namespace Metering

namespace Span

/-- Whether a span can have so many seconds. -/
def Holds (n : Int) : Prop := -maxSeconds ≤ n ∧ n ≤ maxSeconds

instance (n : Int) : Decidable (Holds n) := inferInstanceAs (Decidable (_ ∧ _))

/-- A span of exactly so many seconds, forward in time. -/
def IsLength (s : Span) (n : Int) : Prop := s = seconds n ∧ seconds 0 ≤ s

theorem isLength_seconds {n : Int} (h : 0 ≤ n) : IsLength (seconds n) n := by
  refine ⟨rfl, ?_⟩
  simp only [le_iff, seconds]
  omega

end Span

namespace Json

/-- What an optional field holds was read from a tree. -/
theorem Record.exists_of_optional {α : Type} {r : Record} {name : String} {read : Tree → Option α}
    {v : Option α} (h : r.optional name read = some v) {a : α} (mem : a ∈ v) :
    ∃ t, read t = some a := by
  unfold Record.optional at h
  split at h
  · cases h
    cases mem
  · rename_i t found
    cases t with
    | null =>
      cases h
      cases mem
    | _ =>
      obtain ⟨b, made, rfl⟩ := Option.map_eq_some_iff.1 h
      cases mem
      exact ⟨_, made⟩

theorem Tree.unsigned?_lt {n : Nat} {t : Tree} (h : t.unsigned? 64 = some n) :
    n < 18446744073709551616 := by
  obtain ⟨k, made, rfl⟩ := Option.map_eq_some_iff.1 h
  have size : Nat.pow 2 64 = 18446744073709551616 := rfl
  rw [size] at made
  unfold Tree.integer? at made
  split at made
  · split at made
    · split at made
      · rename_i bounds
        cases made
        omega
      · cases made
    · cases made
  · cases made

end Json

namespace ConfigFile

variable (f : ConfigFile)

def queryHours : Int := f.queryAgeHours.getD 72

def usageHours : Int := f.usageAgeHours.getD 24

def delaySeconds : Nat := f.cutoverSeconds.getD 60

def settlingSeconds : Nat := f.settleSeconds.getD 600

variable {f} {r : Json.Record}

theorem getD_lt_of_optional {name : String} {n : Option Nat} {default : Nat}
    (read : r.optional name (Json.Tree.unsigned? 64) = some n) (h : default < 18446744073709551616) :
    n.getD default < 18446744073709551616 := by
  cases n with
  | none => exact h
  | some n =>
    obtain ⟨t, made⟩ := Json.Record.exists_of_optional read rfl
    exact Json.Tree.unsigned?_lt made

/-- The delays of a file are read from one of its sections. -/
theorem exists_section (h : ofRecord? r = some f) : ∃ backfill : Json.Record,
    backfill.optional "stream_start_offset_secs" (Json.Tree.unsigned? 64) = some f.cutoverSeconds ∧
    backfill.optional "cutover_settle_delay_secs" (Json.Tree.unsigned? 64) = some f.settleSeconds := by
  unfold ofRecord? at h
  -- the sections in their order, then the settings: only the section of the two delays is kept
  iterate 4 obtain ⟨_, -, h⟩ := Option.bind_eq_some_iff.1 h
  obtain ⟨backfill, -, h⟩ := Option.bind_eq_some_iff.1 h
  iterate 11 obtain ⟨_, -, h⟩ := Option.bind_eq_some_iff.1 h
  obtain ⟨delay, readDelay, h⟩ := Option.bind_eq_some_iff.1 h
  obtain ⟨settling, readSettling, h⟩ := Option.bind_eq_some_iff.1 h
  iterate 3 obtain ⟨_, -, h⟩ := Option.bind_eq_some_iff.1 h
  cases h
  exact ⟨backfill, readDelay, readSettling⟩

/-- Counts of seconds in a file have 64 bits. -/
theorem seconds_lt_of_read {text : String} (h : read? text = some f) :
    f.delaySeconds < 18446744073709551616 ∧ f.settlingSeconds < 18446744073709551616 := by
  obtain ⟨t, -, h⟩ := Option.bind_eq_some_iff.1 h
  unfold ofTree? at h
  split at h
  · obtain ⟨r, -, h⟩ := Option.bind_eq_some_iff.1 h
    obtain ⟨_, -, h⟩ := Option.bind_eq_some_iff.1 h
    obtain ⟨backfill, delay, settling⟩ := exists_section h
    constructor
    · exact getD_lt_of_optional delay (by decide)
    · exact getD_lt_of_optional settling (by decide)
  · cases h

end ConfigFile

deriving instance DecidableEq for ConfigFile

namespace Config

/-- Every length of time of a file, as it is taken, is one of spans. -/
structure Holds (f : ConfigFile) : Prop where
  query : Span.Holds (f.queryHours * 3600)
  usage : Span.Holds (f.usageHours * 3600)
  delay : Span.Holds (signed64 f.delaySeconds)
  settling : Span.Holds (signed64 f.settlingSeconds)

/-- A configuration with the lengths of time of a file, as they are taken. -/
structure Takes (f : ConfigFile) (c : Config) : Prop where
  query : c.cache.minQueryAge = Span.seconds (f.queryHours * 3600)
  usage : c.cache.minUsageAge = Span.seconds (f.usageHours * 3600)
  delay : c.backfill.cutoverDelay = Span.seconds (signed64 f.delaySeconds)
  settling : c.backfill.settleDelay = Span.seconds (signed64 f.settlingSeconds)

theorem spanOf_cases (n : Int) : (Span.Holds n ∧ spanOf n = .ok (Span.seconds n)) ∨
    (¬ Span.Holds n ∧ spanOf n = .error .spanTooLong) := by
  unfold spanOf Span.seconds?
  by_cases h : -Span.maxSeconds ≤ n ∧ n ≤ Span.maxSeconds
  · exact .inl ⟨h, by simp only [if_pos h]⟩
  · exact .inr ⟨h, by simp only [if_neg h]⟩

theorem hours_cases (n : Option Int) (default : Int) :
    (Span.Holds (n.getD default * 3600) ∧ hours n default = .ok (Span.hours (n.getD default))) ∨
      (¬ Span.Holds (n.getD default * 3600) ∧ hours n default = .error .spanTooLong) :=
  spanOf_cases _

theorem seconds_cases (n : Option Nat) (default : Nat) :
    (Span.Holds (signed64 (n.getD default)) ∧
        seconds n default = .ok (Span.seconds (signed64 (n.getD default)))) ∨
      (¬ Span.Holds (signed64 (n.getD default)) ∧ seconds n default = .error .spanTooLong) :=
  spanOf_cases _

theorem ok_bind {α β : Type} (a : α) (g : α → Except ConfigError β) : (Except.ok a >>= g) = g a := rfl

/-- The layers make a configuration unless one of the lengths is too long. -/
theorem ofLayers_cases (p : Places) (f : ConfigFile) :
    (Holds f ∧ ∃ c, ofLayers p f = .ok c ∧ c.Takes f) ∨
      (¬ Holds f ∧ ofLayers p f = .error .spanTooLong) := by
  unfold ofLayers
  rcases hours_cases f.queryAgeHours 72 with ⟨query, takes⟩ | ⟨query, fails⟩
  · rw [takes, ok_bind]
    rcases hours_cases f.usageAgeHours 24 with ⟨usage, takes⟩ | ⟨usage, fails⟩
    · rw [takes, ok_bind]
      rcases seconds_cases f.cutoverSeconds 60 with ⟨delay, takes⟩ | ⟨delay, fails⟩
      · rw [takes, ok_bind]
        rcases seconds_cases f.settleSeconds 600 with ⟨settling, takes⟩ | ⟨settling, fails⟩
        · rw [takes, ok_bind]
          exact .inl ⟨⟨query, usage, delay, settling⟩, _, rfl, rfl, rfl, rfl, rfl⟩
        · rw [fails]
          exact .inr ⟨fun held => settling held.settling, rfl⟩
      · rw [fails]
        exact .inr ⟨fun held => delay held.delay, rfl⟩
    · rw [fails]
      exact .inr ⟨fun held => usage held.usage, rfl⟩
  · rw [fails]
    exact .inr ⟨fun held => query held.query, rfl⟩

/-- A file that was read, or none, gives counts of 64 bits. -/
theorem seconds_lt_of_fileSettings {path : Option String} {files : String → FileContent}
    {f : ConfigFile} (given : fileSettings path files = .ok f) :
    f.delaySeconds < 18446744073709551616 ∧ f.settlingSeconds < 18446744073709551616 := by
  have read {path : String} {content : FileContent} (given : fileOf path content = .ok f) :
      f.delaySeconds < 18446744073709551616 ∧ f.settlingSeconds < 18446744073709551616 := by
    unfold fileOf at given
    split at given
    · cases given
    · cases given
    · split at given
      · rename_i read
        cases given
        exact ConfigFile.seconds_lt_of_read read
      · cases given
  unfold fileSettings at given
  split at given
  · exact read given
  · cases given
    decide
  · exact read given

/-- What a configuration that is accepted has passed. -/
structure Accepted (c : Config) : Prop where
  url : c.analytics = .clickhouse → c.clickhouse.isSome
  interval : 0 < c.maintenance.intervalSeconds
  steps : 0 < c.maintenance.stepsPerTick
  refresh : 0 < c.refreshSeconds
  ahead : Span.seconds c.refreshSeconds < c.backfill.cutoverDelay
  depth : 0 < c.maxFilterDepth
  query : Span.seconds 0 ≤ c.cache.minQueryAge
  usage : Span.seconds 0 ≤ c.cache.minUsageAge
  meters : ∀ m ∈ c.meters, m.fault? = none

section Checks

variable {α : Type} {p : Prop} [Decidable p] {e a : α} {rest : Option α}

theorem check_eq_none_iff : (if p then some e else rest) = none ↔ ¬ p ∧ rest = none := by
  split
  · simp_all
  · simp_all

theorem of_check_eq_some (h : (if p then some e else rest) = some a) (other : e ≠ a) :
    rest = some a := by
  split at h
  · cases h
    exact absurd rfl other
  · exact h

end Checks

theorem meterFault?_eq_none_iff {m : Meter} : meterFault? m = none ↔ m.fault? = none := by
  rw [meterFault?, Option.map_eq_none_iff]

theorem fault?_eq_none_iff {c : Config} : c.fault? = none ↔ c.Accepted := by
  unfold fault?
  simp only [check_eq_none_iff, List.findSome?_eq_none_iff, meterFault?_eq_none_iff,
    Decidable.not_not, not_or]
  constructor
  · rintro ⟨url, interval, steps, refresh, ahead, depth, ⟨query, usage⟩, meters⟩
    exact {
      url := fun server => Option.isSome_iff_ne_none.2 fun absent =>
        url ⟨server, by rw [absent, Option.isNone_none]⟩
      interval := Nat.pos_of_ne_zero interval
      steps := Nat.pos_of_ne_zero steps
      refresh := Nat.pos_of_ne_zero refresh
      ahead := ahead
      depth := Nat.pos_of_ne_zero depth
      query := Int.not_lt.1 query
      usage := Int.not_lt.1 usage
      meters := meters }
  · intro h
    refine ⟨?url, Nat.ne_of_gt h.interval, Nat.ne_of_gt h.steps, Nat.ne_of_gt h.refresh, h.ahead,
      Nat.ne_of_gt h.depth, ⟨Int.not_lt.2 h.query, Int.not_lt.2 h.usage⟩, h.meters⟩
    rintro ⟨server, absent⟩
    have given := h.url server
    rw [Option.isNone_iff_eq_none.1 absent] at given
    cases given

theorem fault?_ne_spanTooLong (c : Config) : c.fault? ≠ some .spanTooLong := by
  intro h
  have depth := of_check_eq_some (of_check_eq_some (of_check_eq_some (of_check_eq_some
    (of_check_eq_some h nofun) nofun) nofun) nofun) nofun
  have meters := of_check_eq_some (of_check_eq_some depth nofun) nofun
  obtain ⟨m, -, found⟩ := List.exists_of_findSome?_eq_some meters
  obtain ⟨fault, -, made⟩ := Option.map_eq_some_iff.1 found
  cases made

theorem signed64_of_lt {n : Nat} (h : n < 9223372036854775808) : signed64 n = n := by
  unfold signed64
  rw [Int.bmod_def]
  omega

theorem signed64_of_le {n : Nat} (high : 9223372036854775808 ≤ n) (h : n < 18446744073709551616) :
    signed64 n = n - 18446744073709551616 := by
  unfold signed64
  rw [Int.bmod_def]
  omega

/-- Counts from just above the longest span up to just below 2⁶⁴, which are those of no span. -/
def Overlong (n : Nat) : Prop := Span.maxSeconds < n ∧ n + Span.maxSeconds < 18446744073709551616

instance (n : Nat) : Decidable (Overlong n) := inferInstanceAs (Decidable (_ ∧ _))

theorem holds_signed64_iff {n : Nat} (h : n < 18446744073709551616) :
    Span.Holds (signed64 n) ↔ ¬ Overlong n := by
  unfold Span.Holds Overlong Span.maxSeconds
  rcases Nat.lt_or_ge n 9223372036854775808 with low | high
  · rw [signed64_of_lt low]
    omega
  · rw [signed64_of_le high h]
    omega

/-- A span forward in time that was made from a count of seconds has that many. -/
theorem isLength_of_signed64 {s : Span} {n : Nat} (bound : n < 18446744073709551616)
    (takes : s = Span.seconds (signed64 n)) (h : Span.seconds 0 ≤ s) : s.IsLength n := by
  rcases Nat.lt_or_ge n 9223372036854775808 with low | high
  · rw [signed64_of_lt low] at takes
    exact ⟨takes, h⟩
  · rw [takes, signed64_of_le high bound] at h
    simp only [Span.le_iff, Span.seconds] at h
    omega

/-- One of the lengths of time of a file is one that no span can have. -/
def TooLong (f : ConfigFile) : Prop :=
  ¬ Span.Holds (f.queryHours * 3600) ∨ ¬ Span.Holds (f.usageHours * 3600) ∨
    Overlong f.delaySeconds ∨ Overlong f.settlingSeconds

instance (f : ConfigFile) : Decidable (TooLong f) := inferInstanceAs (Decidable (_ ∨ _ ∨ _ ∨ _))

theorem holds_iff {f : ConfigFile} (delay : f.delaySeconds < 18446744073709551616)
    (settling : f.settlingSeconds < 18446744073709551616) : Holds f ↔ ¬ TooLong f := by
  simp only [TooLong, not_or, Decidable.not_not]
  rw [← holds_signed64_iff delay, ← holds_signed64_iff settling]
  exact ⟨fun h => ⟨h.query, h.usage, h.delay, h.settling⟩, fun ⟨q, u, d, s⟩ => ⟨q, u, d, s⟩⟩

/-- What happens to a file that was read. -/
theorem load_cases {o : Overrides} {files : String → FileContent} {f : ConfigFile}
    (given : fileSettings o.config files = .ok f) :
    (¬ TooLong f ∧ ∃ c : Config, c.Takes f ∧ load o files = c.checked) ∨
      (TooLong f ∧ load o files = .error .spanTooLong) := by
  obtain ⟨delay, settling⟩ := seconds_lt_of_fileSettings given
  unfold load
  rw [given, ok_bind]
  rcases ofLayers_cases o.places f with ⟨held, c, made, takes⟩ | ⟨held, fails⟩
  · rw [made, ok_bind]
    exact .inl ⟨(holds_iff delay settling).1 held, c, takes, rfl⟩
  · rw [fails]
    exact .inr ⟨Decidable.of_not_not fun h => held ((holds_iff delay settling).2 h), rfl⟩

theorem fileSettings_ne_spanTooLong (path : Option String) (files : String → FileContent) :
    fileSettings path files ≠ .error .spanTooLong := by
  have read (path : String) (content : FileContent) : fileOf path content ≠ .error .spanTooLong := by
    unfold fileOf
    split
    · nofun
    · nofun
    · split
      · nofun
      · nofun
  unfold fileSettings
  split
  · exact read _ _
  · nofun
  · exact read _ _

theorem checked_eq_ok_iff {c d : Config} : c.checked = .ok d ↔ c.Accepted ∧ c = d := by
  rw [← fault?_eq_none_iff]
  unfold checked
  cases c.fault? with
  | none => simp
  | some e => simp

theorem checked_ne_spanTooLong (c : Config) : c.checked ≠ .error .spanTooLong := by
  have other := fault?_ne_spanTooLong c
  unfold checked
  cases found : c.fault? with
  | none => nofun
  | some e =>
    rw [found] at other
    rintro h
    cases h
    exact other rfl

/-- A configuration is loaded from every file that can be read unless a setting is wrong, which is an
error, or one of its lengths of time is one that no span can have, which ends the program. The lengths
of the configuration are those of the file, but for a delay after the cutover of 2⁶³ seconds and more. -/
theorem load_lengths (o : Overrides) (files : String → FileContent) :
    (load o files = .error .spanTooLong ↔
      ∃ f, fileSettings o.config files = .ok f ∧ TooLong f) ∧
    ∀ c, load o files = .ok c → ∃ f, fileSettings o.config files = .ok f ∧
      c.cache.minQueryAge.IsLength (f.queryHours * 3600) ∧
      c.cache.minUsageAge.IsLength (f.usageHours * 3600) ∧
      c.backfill.cutoverDelay.IsLength f.delaySeconds ∧
      (f.settlingSeconds < 9223372036854775808 → c.backfill.settleDelay.IsLength f.settlingSeconds) := by
  cases given : fileSettings o.config files with
  | error e =>
    have failed : load o files = .error e := by
      unfold load
      rw [given]
      rfl
    rw [failed]
    constructor
    · constructor
      · intro h
        cases h
        exact absurd given (fileSettings_ne_spanTooLong _ _)
      · rintro ⟨f, is, -⟩
        cases is
    · intro c h
      cases h
  | ok f =>
    obtain ⟨delay, settling⟩ := seconds_lt_of_fileSettings given
    rcases load_cases given with ⟨short, d, takes, checks⟩ | ⟨long, failed⟩
    · rw [checks]
      constructor
      · constructor
        · intro h
          exact absurd h (checked_ne_spanTooLong d)
        · rintro ⟨g, is, long⟩
          cases is
          exact absurd long short
      · intro c h
        obtain ⟨accepted, rfl⟩ := checked_eq_ok_iff.1 h
        refine ⟨f, rfl, ⟨takes.query, accepted.query⟩, ⟨takes.usage, accepted.usage⟩,
          isLength_of_signed64 delay takes.delay ?ahead, fun small => ?settle⟩
        case ahead =>
          have ahead := accepted.ahead
          simp only [Span.lt_iff, Span.le_iff, Span.seconds] at ahead ⊢
          omega
        case settle =>
          rw [takes.settling, signed64_of_lt small]
          exact Span.isLength_seconds (Int.natCast_nonneg _)
    · rw [failed]
      constructor
      · exact ⟨fun _ => ⟨f, rfl, long⟩, fun _ => rfl⟩
      · intro c h
        cases h

theorem fileSettings_of_read {text : String} {f : ConfigFile} (h : ConfigFile.read? text = some f) :
    fileSettings none (fun _ => .text text) = .ok f := by
  change fileOf defaultPath (.text text) = .ok f
  simp only [fileOf, h]

theorem load_of_read {text : String} {f : ConfigFile} (h : ConfigFile.read? text = some f) :
    load ⟨none, .none⟩ (fun _ => .text text) = ofLayers .none f >>= checked := by
  unfold load
  rw [fileSettings_of_read h, ok_bind]

/-- The longest lengths of time that are taken as they stand in a file. -/
theorem load_lengths_longest : ∃ (files : String → FileContent) (c : Config),
    load ⟨none, .none⟩ files = .ok c ∧
    c.cache.minQueryAge.IsLength (2562047788015 * 3600) ∧
    c.backfill.cutoverDelay.IsLength 60 ∧
    c.backfill.settleDelay.IsLength 9223372036854775 := by
  let text := "\x7b\"query_cache\":\x7b\"minimum_cacheable_query_period_hours\":2562047788015\x7d,
    \"backfill\":\x7b\"cutover_settle_delay_secs\":9223372036854775\x7d\x7d"
  have read : ConfigFile.read? text = some { ConfigFile.empty with
      queryAgeHours := some 2562047788015, settleSeconds := some 9223372036854775 } := by
    decide +kernel
  obtain ⟨c, made⟩ : ∃ c, load ⟨none, .none⟩ (fun _ => .text text) = .ok c := by
    rw [load_of_read read]
    exact ⟨_, rfl⟩
  obtain ⟨f, is, query, -, delay, settling⟩ := (load_lengths _ _).2 c made
  rw [fileSettings_of_read read] at is
  cases is
  exact ⟨_, c, made, query, delay, settling (by decide)⟩

/-- Of two files that can be read, one gives a delay after the cutover of less than nothing, and the
other, with one hour more than a span can have, ends the program. -/
theorem load_not_exact :
    (∃ c, load ⟨none, .none⟩ (fun _ => .text
        "\x7b\"backfill\": \x7b\"cutover_settle_delay_secs\": 18446744073709551615\x7d\x7d") = .ok c ∧
      c.backfill.settleDelay = Span.seconds (-1) ∧
      ¬ c.backfill.settleDelay.IsLength 18446744073709551615) ∧
    load ⟨none, .none⟩ (fun _ => .text
        "\x7b\"query_cache\": \x7b\"minimum_cacheable_query_period_hours\": 2562047788016\x7d\x7d") =
      .error .spanTooLong := by
  constructor
  · have read : ConfigFile.read?
        "\x7b\"backfill\": \x7b\"cutover_settle_delay_secs\": 18446744073709551615\x7d\x7d" =
        some { ConfigFile.empty with settleSeconds := some 18446744073709551615 } := by
      decide +kernel
    rw [load_of_read read]
    refine ⟨_, rfl, by decide, ?_⟩
    rintro ⟨-, forward⟩
    revert forward
    decide
  · have read : ConfigFile.read?
        "\x7b\"query_cache\": \x7b\"minimum_cacheable_query_period_hours\": 2562047788016\x7d\x7d" =
        some { ConfigFile.empty with queryAgeHours := some 2562047788016 } := by
      decide +kernel
    rw [load_of_read read]
    rfl

end Config

end Metering
