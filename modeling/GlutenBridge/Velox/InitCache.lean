import GlutenBridge.Velox.Initializer

/-!
# `VeloxInitializer::InitCache`: the cache settings

When `conf` enables the cache (`kVeloxCacheEnabled`, compared in lower case with
`"true"`), `InitCache` sets `FLAGS_ssd_odirect`, reads six settings, creates the two
executors and, when the file system has room for the SSD cache, installs an
`AsyncDataCache`, which `getAsyncDataCache` then returns. Each numeric setting starts from
its default, parsed with `std::stol` or `std::stoi`, and the loop over `conf` replaces it
by the value of its key, parsed the same way. The keys and the defaults come from
`config/GlutenConfig.h`, which is not among the sources: they are parameters
(`CacheKeys`), and nothing below assumes them distinct.

`conf` is a `std::unordered_map`: its keys are distinct and its iteration order is
unspecified. Each setting is therefore replaced at most once, and the loop computes
`cacheSettingsOf`, where each setting is read from its own key's value or its default
(`readCacheSettings_eq_ok_iff`): the same settings, and a failure on the same maps, in
every iteration order (`readCacheSettings_perm`). Which exception it throws when two
values do not parse depends on the order, and is not part of either statement.

A `long` assigned to the `uint64_t` sizes is taken modulo `2^64`: a negative SSD size
becomes a size past `2^63` bytes, so `InitCache` fails the space check on any disk that
reports its free space (`initCache_negative_ssdCacheSize`). The check comes after the
construction of the `SsdCache`, a step of the Velox library that opens the shard files and
may fail first: it is a parameter. A failure at any step installs no cache
(`initCache_error_leaves_allocator`).
-/

set_option autoImplicit false

namespace GlutenBridge.Velox

/-! ## `std::stol` and `std::stoi` -/

/-- `isspace` in the C locale: the blank and the control characters from `\t` to `\r`. -/
def isSpace (c : Char) : Bool := c == ' ' || (decide (9 ≤ c.toNat) && decide (c.toNat ≤ 13))

/-- The value of a run of decimal digits. -/
def digitsValue (digits : List Char) : Nat :=
  digits.foldl (fun acc d => 10 * acc + (d.toNat - '0'.toNat)) 0

/-- `strtol(str, &end, 10)`: the leading white space skipped, an optional sign, then the
longest run of digits; none when no digit follows, where `end` stays at `str`. The value
is not yet checked against `long`. -/
def strtol (str : List Char) : Option Int :=
  let (negative, rest) : Bool × List Char :=
    match str.dropWhile isSpace with
    | '-' :: rest => (true, rest)
    | '+' :: rest => (false, rest)
    | rest => (false, rest)
  match rest.takeWhile Char.isDigit with
  | [] => none
  | digits => some (if negative then -(digitsValue digits : Int) else digitsValue digits)

/-- `std::stol` (`bits = 64`) and `std::stoi` (`bits = 32`) of libstdc++: the
`invalid_argument` exception when no digit is read, `out_of_range` for a value outside the
type (`strtol` sets `ERANGE` past `long`, and `stoi` checks the range of `int`). What the
exceptions say is not modelled. -/
def stoa (bits : Nat) (str : List Char) : Except StdException Int :=
  match strtol str with
  | none => .error .invalid_argument
  | some value =>
    if -2 ^ (bits - 1) ≤ value ∧ value < 2 ^ (bits - 1) then .ok value else .error .out_of_range

/-- `std::stol`. -/
def stol (str : List Char) : Except StdException Int := stoa 64 str

/-- `std::stoi`. -/
def stoi (str : List Char) : Except StdException Int := stoa 32 str

example : stol " -12MB".toList = .ok (-12) ∧ stoi "3000000000".toList = .error .out_of_range ∧
    stol "0x10".toList = .ok 0 ∧ stol "MB".toList = .error .invalid_argument :=
  ⟨rfl, rfl, rfl, rfl⟩

theorem stoa_range {bits : Nat} {str : List Char} {value : Int} (h : stoa bits str = .ok value) :
    -2 ^ (bits - 1) ≤ value ∧ value < 2 ^ (bits - 1) := by
  unfold stoa at h
  split at h
  · cases h
  · split_ifs at h with hrange
    · cases h
      exact hrange

/-- A `long` assigned to a `uint64_t`: modulo `2^64`. -/
def toUInt64 (value : Int) : Nat := (value % 2 ^ 64).toNat

theorem toUInt64_of_neg {value : Int} (hlow : -2 ^ 63 ≤ value) (hneg : value < 0) :
    (toUInt64 value : Int) = 2 ^ 64 + value := by
  rw [toUInt64, ← Int.add_emod_self, Int.emod_eq_of_lt (by omega) (by omega),
    Int.toNat_of_nonneg (by omega), Int.add_comm]

theorem toUInt64_lt (value : Int) : toUInt64 value < 2 ^ 64 := by
  have := Int.emod_lt_of_pos value (by decide : (0 : Int) < 2 ^ 64)
  rw [toUInt64]
  omega

/-- `boost::algorithm::to_lower_copy` in the classic locale. -/
def toLowerCopy (s : List Char) : List Char := s.map Char.toLower

/-! ## The configuration map -/

/-- A `std::unordered_map<std::string, std::string>`: its entries in its iteration order,
which is unspecified, with distinct keys. -/
structure Conf where
  entries : List (String × List Char)
  keys_nodup : (entries.map Prod.fst).Nodup

namespace Conf

/-- `conf.find(key)`: the value of the key's entry. -/
def find (conf : Conf) (key : String) : Option (List Char) := conf.entries.lookup key

theorem lookup_eq_some_of_mem {key : String} {value : List Char} :
    ∀ {entries : List (String × List Char)}, (entries.map Prod.fst).Nodup →
      (key, value) ∈ entries → entries.lookup key = some value
  | (k, v) :: entries, hnodup, hmem => by
    rw [List.map_cons, List.nodup_cons] at hnodup
    rcases List.mem_cons.1 hmem with heq | htail
    · cases heq
      exact List.lookup_cons_self
    · have hne : key ≠ k := by
        rintro rfl
        exact hnodup.1 (List.mem_map.2 ⟨_, htail, rfl⟩)
      rw [List.lookup_cons, beq_false_of_ne hne]
      exact lookup_eq_some_of_mem hnodup.2 htail

theorem mem_of_lookup_eq_some {key : String} {value : List Char}
    {entries : List (String × List Char)} (h : entries.lookup key = some value) :
    (key, value) ∈ entries := by
  obtain ⟨l₁, l₂, rfl, -⟩ := List.lookup_eq_some_iff.1 h
  exact List.mem_append_right _ (List.mem_cons_self _ _)

theorem find_eq_some_of_mem (conf : Conf) {key : String} {value : List Char}
    (hmem : (key, value) ∈ conf.entries) : conf.find key = some value :=
  lookup_eq_some_of_mem conf.keys_nodup hmem

/-- Two iteration orders of one map find the same values. -/
theorem find_eq_of_perm {conf conf' : Conf} (hperm : conf.entries.Perm conf'.entries)
    (key : String) : conf.find key = conf'.find key := by
  cases h : conf.find key with
  | some value => exact (conf'.find_eq_some_of_mem (hperm.mem_iff.1 (mem_of_lookup_eq_some h))).symm
  | none =>
    cases h' : conf'.find key with
    | none => rfl
    | some value =>
      rw [conf.find_eq_some_of_mem (hperm.mem_iff.2 (mem_of_lookup_eq_some h'))] at h
      cases h

end Conf

/-! ## The settings loop -/

/-- The keys and the defaults of `config/GlutenConfig.h` that `InitCache` reads. -/
structure CacheKeys where
  kVeloxCacheEnabled : String
  kVeloxSsdODirectEnabled : String
  kVeloxMemCacheSize : String
  kVeloxSsdCacheSize : String
  kVeloxSsdCacheShards : String
  kVeloxSsdCachePath : String
  kVeloxIOThreads : String
  kVeloxSsdCacheIOThreads : String
  kVeloxMemCacheSizeDefault : List Char
  kVeloxSsdCacheSizeDefault : List Char
  kVeloxSsdCacheShardsDefault : List Char
  kVeloxSsdCacheIOThreadsDefault : List Char
  kVeloxIOThreadsDefault : List Char
  kVeloxSsdCachePathDefault : List Char

/-- The locals the loop of `InitCache` sets: the two `uint64_t` sizes, the three `int32_t`
counts and the SSD path prefix. -/
structure CacheSettings where
  memCacheSize : Nat
  ssdCacheSize : Nat
  ssdCacheShards : Int
  ssdCacheIOThreads : Int
  ioThreads : Int
  ssdCachePathPrefix : List Char
deriving DecidableEq, Repr

/-- One statement `if (k == key) setting = parse(v);` of the loop. -/
def assignIf {α : Type} (hit : Prop) [Decidable hit] (parse : Except StdException α)
    (assign : α → CacheSettings) (settings : CacheSettings) : Except StdException CacheSettings :=
  if hit then assign <$> parse else pure settings

/-- The body of the loop `for (auto& [k, v] : conf)`. -/
def cacheSetting (keys : CacheKeys) (settings : CacheSettings) :
    String × List Char → Except StdException CacheSettings
  | (k, v) => do
    let settings ← assignIf (k = keys.kVeloxMemCacheSize) (stol v)
      (fun n => { settings with memCacheSize := toUInt64 n }) settings
    let settings ← assignIf (k = keys.kVeloxSsdCacheSize) (stol v)
      (fun n => { settings with ssdCacheSize := toUInt64 n }) settings
    let settings ← assignIf (k = keys.kVeloxSsdCacheShards) (stoi v)
      (fun n => { settings with ssdCacheShards := n }) settings
    let settings ← assignIf (k = keys.kVeloxSsdCachePath) (pure v)
      (fun path => { settings with ssdCachePathPrefix := path }) settings
    let settings ← assignIf (k = keys.kVeloxIOThreads) (stoi v)
      (fun n => { settings with ioThreads := n }) settings
    assignIf (k = keys.kVeloxSsdCacheIOThreads) (stoi v)
      (fun n => { settings with ssdCacheIOThreads := n }) settings

/-- The settings `InitCache` reads: the defaults parsed, then the loop over `conf`. -/
def readCacheSettings (keys : CacheKeys) (conf : Conf) : Except StdException CacheSettings := do
  let memCacheSize ← stol keys.kVeloxMemCacheSizeDefault
  let ssdCacheSize ← stol keys.kVeloxSsdCacheSizeDefault
  let ssdCacheShards ← stoi keys.kVeloxSsdCacheShardsDefault
  let ssdCacheIOThreads ← stoi keys.kVeloxSsdCacheIOThreadsDefault
  let ioThreads ← stoi keys.kVeloxIOThreadsDefault
  conf.entries.foldlM (cacheSetting keys)
    ⟨toUInt64 memCacheSize, toUInt64 ssdCacheSize, ssdCacheShards, ssdCacheIOThreads, ioThreads,
      keys.kVeloxSsdCachePathDefault⟩

/-- The text a setting is read from: its key's value when the map has the key, else its
default. -/
def settingText (find : String → Option (List Char)) (key : String) (default : List Char) :
    List Char :=
  (find key).getD default

/-- What the loop is for: after the defaults, each setting parsed from its own text. -/
def cacheSettingsOf (keys : CacheKeys) (find : String → Option (List Char)) :
    Except StdException CacheSettings := do
  let _ ← stol keys.kVeloxMemCacheSizeDefault
  let _ ← stol keys.kVeloxSsdCacheSizeDefault
  let _ ← stoi keys.kVeloxSsdCacheShardsDefault
  let _ ← stoi keys.kVeloxSsdCacheIOThreadsDefault
  let _ ← stoi keys.kVeloxIOThreadsDefault
  let memCacheSize ← stol (settingText find keys.kVeloxMemCacheSize keys.kVeloxMemCacheSizeDefault)
  let ssdCacheSize ← stol (settingText find keys.kVeloxSsdCacheSize keys.kVeloxSsdCacheSizeDefault)
  let ssdCacheShards ←
    stoi (settingText find keys.kVeloxSsdCacheShards keys.kVeloxSsdCacheShardsDefault)
  let ssdCacheIOThreads ←
    stoi (settingText find keys.kVeloxSsdCacheIOThreads keys.kVeloxSsdCacheIOThreadsDefault)
  let ioThreads ← stoi (settingText find keys.kVeloxIOThreads keys.kVeloxIOThreadsDefault)
  pure ⟨toUInt64 memCacheSize, toUInt64 ssdCacheSize, ssdCacheShards, ssdCacheIOThreads,
    ioThreads, settingText find keys.kVeloxSsdCachePath keys.kVeloxSsdCachePathDefault⟩

/-! ## The loop reads each setting from its own key -/

theorem bind_eq_ok_iff {α β : Type} {x : Except StdException α}
    {f : α → Except StdException β}
    {b : β} : x >>= f = .ok b ↔ ∃ a, x = .ok a ∧ f a = .ok b := by
  cases x <;> simp [bind, Except.bind]

theorem ok_bind {α β : Type} (a : α) (f : α → Except StdException β) :
    (Except.ok a >>= f) = f a :=
  rfl

/-- What one iteration leaves of a setting: when the key is the setting's, its value parsed
and converted, else the setting as it was. -/
def Reads {α β : Type} (hit : Prop) [Decidable hit] (parse : Except StdException α)
    (conv : α → β) (before after : β) : Prop :=
  if hit then ∃ n, parse = .ok n ∧ after = conv n else after = before

theorem Reads.parses {α β : Type} {hit : Prop} [Decidable hit] {parse : Except StdException α}
    {conv : α → β} {before after : β} (h : Reads hit parse conv before after) (hhit : hit) :
    ∃ n, parse = .ok n := by
  rw [Reads, if_pos hhit] at h
  obtain ⟨n, hn, -⟩ := h
  exact ⟨n, hn⟩

section AssignIf

variable {α β : Type} {hit : Prop} [Decidable hit] {parse : Except StdException α}
  {assign : α → CacheSettings} {settings settings' : CacheSettings}

theorem assignIf_eq_ok :
    assignIf hit parse assign settings = .ok settings' ↔
      if hit then ∃ n, parse = .ok n ∧ settings' = assign n else settings' = settings := by
  unfold assignIf
  split_ifs
  · cases parse <;> simp [Functor.map, Except.map, eq_comm]
  · simp [pure, Except.pure, eq_comm]

/-- A statement of the loop's body sets one setting: to its value parsed and converted
when the key is the setting's, else to what it was. -/
theorem assignIf_update {conv : α → β} (update : CacheSettings → β → CacheSettings)
    (get : CacheSettings → β) (hself : update settings (get settings) = settings)
    (h : assignIf hit parse (fun n => update settings (conv n)) settings = .ok settings') :
    ∃ x, Reads hit parse conv (get settings) x ∧ settings' = update settings x := by
  rw [assignIf_eq_ok] at h
  unfold Reads
  split_ifs at h ⊢
  · obtain ⟨n, hn, rfl⟩ := h
    exact ⟨conv n, ⟨n, hn, rfl⟩, rfl⟩
  · exact ⟨get settings, rfl, h.trans hself.symm⟩

theorem assignIf_ok (hparse : hit → ∃ n, parse = .ok n) (assign : α → CacheSettings)
    (settings : CacheSettings) :
    ∃ settings', assignIf hit parse assign settings = .ok settings' := by
  unfold assignIf
  split_ifs with hhit
  · obtain ⟨n, hn⟩ := hparse hhit
    exact ⟨assign n, by rw [hn]; rfl⟩
  · exact ⟨settings, rfl⟩

end AssignIf

/-- One iteration reads each setting from the entry when the entry's key is the setting's,
and leaves it as it was otherwise. -/
theorem cacheSetting_reads {keys : CacheKeys} {settings settings' : CacheSettings} {k : String}
    {v : List Char} (h : cacheSetting keys settings (k, v) = .ok settings') :
    Reads (k = keys.kVeloxMemCacheSize) (stol v) toUInt64
        settings.memCacheSize settings'.memCacheSize ∧
      Reads (k = keys.kVeloxSsdCacheSize) (stol v) toUInt64
        settings.ssdCacheSize settings'.ssdCacheSize ∧
      Reads (k = keys.kVeloxSsdCacheShards) (stoi v) id
        settings.ssdCacheShards settings'.ssdCacheShards ∧
      Reads (k = keys.kVeloxSsdCachePath) (pure v) id
        settings.ssdCachePathPrefix settings'.ssdCachePathPrefix ∧
      Reads (k = keys.kVeloxIOThreads) (stoi v) id settings.ioThreads settings'.ioThreads ∧
      Reads (k = keys.kVeloxSsdCacheIOThreads) (stoi v) id
        settings.ssdCacheIOThreads settings'.ssdCacheIOThreads := by
  simp only [cacheSetting, bind_eq_ok_iff] at h
  obtain ⟨s₁, h₁, s₂, h₂, s₃, h₃, s₄, h₄, s₅, h₅, h₆⟩ := h
  obtain ⟨_, hmem, rfl⟩ :=
    assignIf_update (fun s x => { s with memCacheSize := x }) (·.memCacheSize) rfl h₁
  obtain ⟨_, hssd, rfl⟩ :=
    assignIf_update (fun s x => { s with ssdCacheSize := x }) (·.ssdCacheSize) rfl h₂
  obtain ⟨_, hshards, rfl⟩ :=
    assignIf_update (fun s x => { s with ssdCacheShards := x }) (·.ssdCacheShards) rfl h₃
  obtain ⟨_, hpath, rfl⟩ :=
    assignIf_update (fun s x => { s with ssdCachePathPrefix := x }) (·.ssdCachePathPrefix) rfl h₄
  obtain ⟨_, hio, rfl⟩ :=
    assignIf_update (fun s x => { s with ioThreads := x }) (·.ioThreads) rfl h₅
  obtain ⟨_, hssdio, rfl⟩ :=
    assignIf_update (fun s x => { s with ssdCacheIOThreads := x }) (·.ssdCacheIOThreads) rfl h₆
  exact ⟨hmem, hssd, hshards, hpath, hio, hssdio⟩

/-- An entry the loop accepts: each numeric setting it is the key of parses. -/
def EntryParses (keys : CacheKeys) : String × List Char → Prop
  | (k, v) =>
    (k = keys.kVeloxMemCacheSize → ∃ n, stol v = .ok n) ∧
      (k = keys.kVeloxSsdCacheSize → ∃ n, stol v = .ok n) ∧
      (k = keys.kVeloxSsdCacheShards → ∃ n, stoi v = .ok n) ∧
      (k = keys.kVeloxIOThreads → ∃ n, stoi v = .ok n) ∧
      (k = keys.kVeloxSsdCacheIOThreads → ∃ n, stoi v = .ok n)

theorem cacheSetting_ok {keys : CacheKeys} {k : String} {v : List Char}
    (h : EntryParses keys (k, v)) (settings : CacheSettings) :
    ∃ settings', cacheSetting keys settings (k, v) = .ok settings' := by
  obtain ⟨hmem, hssd, hshards, hio, hssdio⟩ := h
  obtain ⟨s₁, h₁⟩ := assignIf_ok hmem (fun n => { settings with memCacheSize := toUInt64 n })
    settings
  obtain ⟨s₂, h₂⟩ := assignIf_ok hssd (fun n => { s₁ with ssdCacheSize := toUInt64 n }) s₁
  obtain ⟨s₃, h₃⟩ := assignIf_ok hshards (fun n => { s₂ with ssdCacheShards := n }) s₂
  obtain ⟨s₄, h₄⟩ := assignIf_ok
    (fun _ => ⟨v, rfl⟩ : k = keys.kVeloxSsdCachePath → ∃ path, (pure v : Except _ _) = .ok path)
    (fun path => { s₃ with ssdCachePathPrefix := path }) s₃
  obtain ⟨s₅, h₅⟩ := assignIf_ok hio (fun n => { s₄ with ioThreads := n }) s₄
  obtain ⟨s₆, h₆⟩ := assignIf_ok hssdio (fun n => { s₅ with ssdCacheIOThreads := n }) s₅
  simp only [cacheSetting, bind_eq_ok_iff]
  exact ⟨s₆, s₁, h₁, s₂, h₂, s₃, h₃, s₄, h₄, s₅, h₅, h₆⟩

theorem foldlM_ok {keys : CacheKeys} : ∀ {entries : List (String × List Char)},
    (∀ e ∈ entries, EntryParses keys e) → ∀ settings : CacheSettings,
      ∃ settings', entries.foldlM (cacheSetting keys) settings = .ok settings'
  | [], _, settings => ⟨settings, rfl⟩
  | (k, v) :: _, h, settings => by
    obtain ⟨s₁, h₁⟩ := cacheSetting_ok (h _ (List.mem_cons_self _ _)) settings
    obtain ⟨settings', h'⟩ := foldlM_ok (fun e he => h e (List.mem_cons_of_mem _ he)) s₁
    exact ⟨settings', by rw [List.foldlM_cons, h₁, ok_bind, h']⟩

section Fold

variable {keys : CacheKeys} {α β : Type} (get : CacheSettings → β) (key : String)
  (parse : List Char → Except StdException α) (conv : α → β)
  (hstep : ∀ {settings settings' : CacheSettings} {k : String} {v : List Char},
    cacheSetting keys settings (k, v) = .ok settings' →
      Reads (k = key) (parse v) conv (get settings) (get settings'))

include hstep in
/-- Over the whole loop, a setting is read from the entry of its key when there is one,
and left as it was otherwise: the keys are distinct, so no later entry reads it again. -/
theorem foldlM_reads : ∀ {entries : List (String × List Char)} {settings settings' : CacheSettings},
    (entries.map Prod.fst).Nodup → entries.foldlM (cacheSetting keys) settings = .ok settings' →
      match entries.lookup key with
      | some v => ∃ n, parse v = .ok n ∧ get settings' = conv n
      | none => get settings' = get settings
  | [], settings, settings', _, h => by
    cases h
    rfl
  | (k, v) :: entries, settings, settings', hnodup, h => by
    rw [List.foldlM_cons, bind_eq_ok_iff] at h
    obtain ⟨s₁, h₁, h₂⟩ := h
    rw [List.map_cons, List.nodup_cons] at hnodup
    have hrest := foldlM_reads hnodup.2 h₂
    have hread := hstep h₁
    rw [List.lookup_cons]
    by_cases hk : k = key
    · subst hk
      have hnone : entries.lookup k = none :=
        List.lookup_eq_none_iff.2 fun p hp => bne_iff_ne.2 fun heq =>
          hnodup.1 (List.mem_map.2 ⟨p, hp, heq.symm⟩)
      rw [Reads, if_pos rfl] at hread
      rw [hnone] at hrest
      rw [beq_self_eq_true]
      obtain ⟨n, hn, hget⟩ := hread
      exact ⟨n, hn, hrest.trans hget⟩
    · rw [Reads, if_neg hk] at hread
      rw [beq_false_of_ne (Ne.symm hk)]
      dsimp only
      rw [← hread]
      exact hrest

include hstep in
/-- A setting that starts at its parsed default ends parsed from its text. -/
theorem foldlM_settingText (default : List Char) {n₀ : α} (hdefault : parse default = .ok n₀)
    {conf : Conf} {settings settings' : CacheSettings} (hinit : get settings = conv n₀)
    (h : conf.entries.foldlM (cacheSetting keys) settings = .ok settings') :
    ∃ n, parse (settingText conf.find key default) = .ok n ∧ get settings' = conv n := by
  have hloop := foldlM_reads get key parse conv hstep conf.keys_nodup h
  unfold settingText Conf.find
  cases hlookup : conf.entries.lookup key with
  | none =>
    rw [hlookup] at hloop
    exact ⟨n₀, hdefault, hloop.trans hinit⟩
  | some v =>
    rw [hlookup] at hloop
    exact hloop

end Fold

/-- The loop computes the settings of `cacheSettingsOf`. -/
theorem cacheSettingsOf_of_readCacheSettings {keys : CacheKeys} {conf : Conf}
    {settings : CacheSettings} (h : readCacheSettings keys conf = .ok settings) :
    cacheSettingsOf keys conf.find = .ok settings := by
  simp only [readCacheSettings, bind_eq_ok_iff] at h
  obtain ⟨m₀, hm₀, s₀, hs₀, c₀, hc₀, t₀, ht₀, i₀, hi₀, hloop⟩ := h
  obtain ⟨m, hm, hmem⟩ := foldlM_settingText (·.memCacheSize) _ stol toUInt64
    (fun h => (cacheSetting_reads h).1) _ hm₀ rfl hloop
  obtain ⟨s, hs, hssd⟩ := foldlM_settingText (·.ssdCacheSize) _ stol toUInt64
    (fun h => (cacheSetting_reads h).2.1) _ hs₀ rfl hloop
  obtain ⟨c, hc, hshards⟩ := foldlM_settingText (·.ssdCacheShards) _ stoi id
    (fun h => (cacheSetting_reads h).2.2.1) _ hc₀ rfl hloop
  obtain ⟨p, hp, hpath⟩ := foldlM_settingText (·.ssdCachePathPrefix) _ pure id
    (fun h => (cacheSetting_reads h).2.2.2.1) keys.kVeloxSsdCachePathDefault rfl rfl hloop
  obtain ⟨i, hi, hio⟩ := foldlM_settingText (·.ioThreads) _ stoi id
    (fun h => (cacheSetting_reads h).2.2.2.2.1) _ hi₀ rfl hloop
  obtain ⟨t, ht, hssdio⟩ := foldlM_settingText (·.ssdCacheIOThreads) _ stoi id
    (fun h => (cacheSetting_reads h).2.2.2.2.2) _ ht₀ rfl hloop
  cases hp
  simp only [cacheSettingsOf, hm₀, hs₀, hc₀, ht₀, hi₀, hm, hs, hc, ht, hi, ok_bind]
  cases settings
  dsimp only at hmem hssd hshards hpath hio hssdio
  rw [hmem, hssd, hshards, hpath, hio, hssdio]
  rfl

/-- A map whose settings all parse passes the loop. -/
theorem readCacheSettings_of_cacheSettingsOf {keys : CacheKeys} {conf : Conf}
    {settings : CacheSettings} (h : cacheSettingsOf keys conf.find = .ok settings) :
    readCacheSettings keys conf = .ok settings := by
  have hspec := h
  simp only [cacheSettingsOf, bind_eq_ok_iff] at h
  obtain ⟨m₀, hm₀, s₀, hs₀, c₀, hc₀, t₀, ht₀, i₀, hi₀, m, hm, s, hs, c, hc, t, ht, i, hi, -⟩ := h
  have hentries : ∀ e ∈ conf.entries, EntryParses keys e := by
    rintro ⟨k, v⟩ hmem
    have htext : ∀ default, settingText conf.find k default = v := fun _ => by
      rw [settingText, conf.find_eq_some_of_mem hmem]
      rfl
    refine ⟨?_, ?_, ?_, ?_, ?_⟩ <;> rintro rfl
    · exact ⟨m, htext _ ▸ hm⟩
    · exact ⟨s, htext _ ▸ hs⟩
    · exact ⟨c, htext _ ▸ hc⟩
    · exact ⟨i, htext _ ▸ hi⟩
    · exact ⟨t, htext _ ▸ ht⟩
  obtain ⟨settings', hloop⟩ := foldlM_ok hentries
    ⟨toUInt64 m₀, toUInt64 s₀, c₀, t₀, i₀, keys.kVeloxSsdCachePathDefault⟩
  have hread : readCacheSettings keys conf = .ok settings' := by
    simp only [readCacheSettings, hm₀, hs₀, hc₀, ht₀, hi₀, ok_bind, hloop]
  rw [hread, ← hspec, cacheSettingsOf_of_readCacheSettings hread]

/-- The loop over `conf` computes each setting from its own key's value when the map has
the key, else from its default: it returns the settings of `cacheSettingsOf`, and fails
exactly when that fails, on a default or a value of a setting's key that does not parse. -/
theorem readCacheSettings_eq_ok_iff (keys : CacheKeys) (conf : Conf) (settings : CacheSettings) :
    readCacheSettings keys conf = .ok settings ↔ cacheSettingsOf keys conf.find = .ok settings :=
  ⟨cacheSettingsOf_of_readCacheSettings, readCacheSettings_of_cacheSettingsOf⟩

/-- The settings do not depend on the iteration order of the map: over two orders of the
same entries, the loop returns the same settings, and fails on both or on neither. -/
theorem readCacheSettings_perm (keys : CacheKeys) {conf conf' : Conf}
    (hperm : conf.entries.Perm conf'.entries) (settings : CacheSettings) :
    readCacheSettings keys conf = .ok settings ↔ readCacheSettings keys conf' = .ok settings := by
  have hfind : conf.find = conf'.find := funext (Conf.find_eq_of_perm hperm)
  constructor <;> intro h
  · exact readCacheSettings_of_cacheSettingsOf (hfind ▸ cacheSettingsOf_of_readCacheSettings h)
  · exact readCacheSettings_of_cacheSettingsOf (hfind ▸ cacheSettingsOf_of_readCacheSettings h)

/-- A choice of the keys and defaults of `config/GlutenConfig.h`. -/
def sampleCacheKeys : CacheKeys :=
  ⟨"cacheEnabled", "ssdODirect", "memCacheSize", "ssdCacheSize", "ssdCacheShards",
    "ssdCachePath", "IOThreads", "ssdCacheIOThreads", "1073741824".toList,
    "1073741824".toList, "1".toList, "1".toList, "1".toList, "/tmp".toList⟩

/-- A map that enables the cache with a memory size, a negative SSD size and a path. -/
def sampleConf : Conf :=
  ⟨[("cacheEnabled", "True".toList), ("memCacheSize", "2048".toList),
    ("ssdCacheSize", "-1".toList), ("ssdCachePath", "/mnt".toList)], by decide⟩

/-- The same map in another iteration order. -/
def sampleConfReordered : Conf :=
  ⟨[("ssdCachePath", "/mnt".toList), ("ssdCacheSize", "-1".toList),
    ("cacheEnabled", "True".toList), ("memCacheSize", "2048".toList)], by decide⟩

/-- The settings both orders give: the SSD size `-1` reads as `2^64 - 1`. -/
def sampleSettings : CacheSettings := ⟨2048, 2 ^ 64 - 1, 1, 1, 1, "/mnt".toList⟩

theorem readCacheSettings_perm_sampleConf :
    sampleConf.entries.Perm sampleConfReordered.entries ∧
      (readCacheSettings sampleCacheKeys sampleConf = .ok sampleSettings ↔
        readCacheSettings sampleCacheKeys sampleConfReordered = .ok sampleSettings) :=
  ⟨by decide, readCacheSettings_perm sampleCacheKeys (by decide) sampleSettings⟩

/-- The settings `cacheSettingsOf` returns, each parsed from its text. -/
theorem cacheSettingsOf_eq_ok {keys : CacheKeys} {find : String → Option (List Char)}
    {settings : CacheSettings} (h : cacheSettingsOf keys find = .ok settings) :
    ∃ m s c t i,
      stol (settingText find keys.kVeloxMemCacheSize keys.kVeloxMemCacheSizeDefault) = .ok m ∧
      stol (settingText find keys.kVeloxSsdCacheSize keys.kVeloxSsdCacheSizeDefault) = .ok s ∧
      stoi (settingText find keys.kVeloxSsdCacheShards keys.kVeloxSsdCacheShardsDefault) =
        .ok c ∧
      stoi (settingText find keys.kVeloxSsdCacheIOThreads
        keys.kVeloxSsdCacheIOThreadsDefault) = .ok t ∧
      stoi (settingText find keys.kVeloxIOThreads keys.kVeloxIOThreadsDefault) = .ok i ∧
      settings = ⟨toUInt64 m, toUInt64 s, c, t, i,
        settingText find keys.kVeloxSsdCachePath keys.kVeloxSsdCachePathDefault⟩ := by
  simp only [cacheSettingsOf, bind_eq_ok_iff] at h
  obtain ⟨-, -, -, -, -, -, -, -, -, -, m, hm, s, hs, c, hc, t, ht, i, hi, h⟩ := h
  exact ⟨m, s, c, t, i, hm, hs, hc, ht, hi, (Except.ok.inj h).symm⟩

/-! ## `InitCache` -/

/-- The `AsyncDataCache` `InitCache` installs: the memory size of its `MmapAllocator` and
of the cache, and the path, size and shard count of its `SsdCache`. -/
structure AsyncDataCache where
  memCacheSize : Nat
  ssdCachePath : List Char
  ssdCacheSize : Nat
  ssdCacheShards : Int
deriving DecidableEq, Repr

/-- The state `InitCache` writes: `FLAGS_ssd_odirect`, the thread counts of
`ssdCacheExecutor_` and `ioExecutor_` once they are created, and `asyncDataCache_`. -/
structure VeloxState where
  ssd_odirect : Bool
  ssdCacheExecutor : Option Int
  ioExecutor : Option Int
  asyncDataCache : Option AsyncDataCache
deriving DecidableEq, Repr

/-- What `InitCache` throws: an exception of `std::stol` or `std::stoi`, the error of
`VELOX_FAIL` with its message, or a failure of the `SsdCache` constructor. -/
inductive InitCacheError where
  | std (e : StdException)
  | fail (message : List Char)
  | ssdCache
deriving DecidableEq, Repr

/-- The message of the space check. -/
def spaceMessage (ssdCachePath : List Char) (ssdCacheSize available : Nat) : List Char :=
  "not enough space for ssd cache in ".toList ++ ssdCachePath ++ " cache size: ".toList ++
    (toString ssdCacheSize).toList ++ "free space: ".toList ++ (toString available).toList

/-- `VeloxInitializer::InitCache(conf)`. `genUuid()` gives `uuid`. `ssdCache path size shards`
is the construction of `velox::cache::SsdCache`, from the Velox library: it opens one file
per shard, under `VELOX_CHECK`, and divides the size by the shard count, so it may fail;
`true` when it returns. The free space `std::filesystem::space(prefix, ec).available` is
`space prefix`, none when the call sets `ec`, where `available` is the largest `uintmax_t`. -/
def initCache (keys : CacheKeys) (conf : Conf) (uuid : List Char)
    (ssdCache : List Char → Nat → Int → Bool) (space : List Char → Option Nat)
    (state : VeloxState) : Except InitCacheError Unit × VeloxState :=
  if (conf.find keys.kVeloxCacheEnabled).map toLowerCopy = some "true".toList then
    let state := { state with ssd_odirect := true }
    let state :=
      if (conf.find keys.kVeloxSsdODirectEnabled).map toLowerCopy = some "false".toList then
        { state with ssd_odirect := false }
      else state
    match readCacheSettings keys conf with
    | .error e => (.error (.std e), state)
    | .ok settings =>
      let ssdCachePath := settings.ssdCachePathPrefix ++ "/cache.".toList ++ uuid ++ ".".toList
      let state := { state with
        ssdCacheExecutor := some settings.ssdCacheIOThreads
        ioExecutor := some settings.ioThreads }
      if ssdCache ssdCachePath settings.ssdCacheSize settings.ssdCacheShards then
        let available := (space settings.ssdCachePathPrefix).getD (2 ^ 64 - 1)
        if available < settings.ssdCacheSize then
          (.error (.fail (spaceMessage ssdCachePath settings.ssdCacheSize available)), state)
        else
          (.ok (), { state with asyncDataCache := some ⟨settings.memCacheSize, ssdCachePath,
            settings.ssdCacheSize, settings.ssdCacheShards⟩ })
      else (.error .ssdCache, state)
  else (.ok (), state)

/-- What `getAsyncDataCache` returns: the installed cache, or
`MemoryAllocator::getInstance()`. -/
inductive MemoryAllocator where
  | asyncDataCache (cache : AsyncDataCache)
  | defaultInstance
deriving DecidableEq, Repr

/-- `VeloxInitializer::getAsyncDataCache()`. -/
def getAsyncDataCache (state : VeloxState) : MemoryAllocator :=
  match state.asyncDataCache with
  | some cache => .asyncDataCache cache
  | none => .defaultInstance

section InitCache

variable (keys : CacheKeys) (conf : Conf) (uuid : List Char)
  (ssdCache : List Char → Nat → Int → Bool) (space : List Char → Option Nat) (state : VeloxState)

/-- A negative SSD size wraps to a size past `2^63` bytes, so once the `SsdCache` is built,
on a disk that reports its free space, `InitCache` fails the space check, with a message
that gives the size as `2^64` plus the value. -/
theorem initCache_negative_ssdCacheSize
    (henabled : (conf.find keys.kVeloxCacheEnabled).map toLowerCopy = some "true".toList)
    {settings : CacheSettings} (hread : readCacheSettings keys conf = .ok settings)
    {value : List Char} (hssd : conf.find keys.kVeloxSsdCacheSize = some value) {n : Int}
    (hn : stol value = .ok n) (hneg : n < 0)
    (hbuilt : ssdCache (settings.ssdCachePathPrefix ++ "/cache.".toList ++ uuid ++ ".".toList)
      settings.ssdCacheSize settings.ssdCacheShards) {available : Nat}
    (hspace : space settings.ssdCachePathPrefix = some available) (havailable : available < 2 ^ 63) :
    (settings.ssdCacheSize : Int) = 2 ^ 64 + n ∧
      (initCache keys conf uuid ssdCache space state).1 = .error (.fail (spaceMessage
        (settings.ssdCachePathPrefix ++ "/cache.".toList ++ uuid ++ ".".toList)
        settings.ssdCacheSize available)) := by
  obtain ⟨_, s, _, _, _, -, hs, -, -, -, hsettings⟩ :=
    cacheSettingsOf_eq_ok (cacheSettingsOf_of_readCacheSettings hread)
  rw [settingText, hssd, Option.getD_some, hn] at hs
  have hlow : -2 ^ 63 ≤ n := (stoa_range hn).1
  have hsize : (settings.ssdCacheSize : Int) = 2 ^ 64 + n := by
    rw [hsettings, ← Except.ok.inj hs]
    exact toUInt64_of_neg hlow hneg
  refine ⟨hsize, ?_⟩
  rw [initCache, if_pos henabled]
  dsimp only
  rw [hread]
  dsimp only
  rw [if_pos hbuilt, hspace, Option.getD_some, if_pos (by omega)]

/-- The state before `InitCache`. -/
def initialVeloxState : VeloxState := ⟨false, none, none, none⟩

theorem initCache_negative_ssdCacheSize_sampleConf :
    ((sampleConf.find sampleCacheKeys.kVeloxCacheEnabled).map toLowerCopy = some "true".toList ∧
        readCacheSettings sampleCacheKeys sampleConf = .ok sampleSettings ∧
        sampleConf.find sampleCacheKeys.kVeloxSsdCacheSize = some "-1".toList ∧
        stol "-1".toList = .ok (-1) ∧ (-1 : Int) < 0 ∧
        (fun _ _ _ => true : List Char → Nat → Int → Bool)
          (sampleSettings.ssdCachePathPrefix ++ "/cache.".toList ++ "u".toList ++ ".".toList)
          sampleSettings.ssdCacheSize sampleSettings.ssdCacheShards ∧
        (fun _ => some 1000000 : List Char → Option Nat) sampleSettings.ssdCachePathPrefix =
          some 1000000 ∧ 1000000 < 2 ^ 63) ∧
      (sampleSettings.ssdCacheSize : Int) = 2 ^ 64 + -1 ∧
      (initCache sampleCacheKeys sampleConf "u".toList (fun _ _ _ => true) (fun _ => some 1000000)
          initialVeloxState).1 =
        .error (.fail (spaceMessage
          (sampleSettings.ssdCachePathPrefix ++ "/cache.".toList ++ "u".toList ++ ".".toList)
          sampleSettings.ssdCacheSize 1000000)) :=
  ⟨⟨rfl, rfl, rfl, rfl, by decide, rfl, rfl, by decide⟩, initCache_negative_ssdCacheSize
    sampleCacheKeys sampleConf "u".toList (fun _ _ _ => true) (fun _ => some 1000000)
    initialVeloxState rfl rfl rfl rfl (by decide) rfl rfl (by decide)⟩

/-- A failed `InitCache` installs no cache: `getAsyncDataCache` still returns what it
returned before (`MemoryAllocator::getInstance()` on a fresh initializer). It has already
set `FLAGS_ssd_odirect`, on unless the map turns it off, whether the parse of a setting,
the `SsdCache` or the space check failed. -/
theorem initCache_error_leaves_allocator {e : InitCacheError}
    (h : (initCache keys conf uuid ssdCache space state).1 = .error e) :
    getAsyncDataCache (initCache keys conf uuid ssdCache space state).2 =
        getAsyncDataCache state ∧
      (initCache keys conf uuid ssdCache space state).2.ssd_odirect =
        if (conf.find keys.kVeloxSsdODirectEnabled).map toLowerCopy = some "false".toList then
          false
        else true := by
  revert h
  unfold initCache
  by_cases henabled : (conf.find keys.kVeloxCacheEnabled).map toLowerCopy = some "true".toList
  · rw [if_pos henabled]
    -- with either flag: a failed parse, `SsdCache` or space check, before the cache is built
    split_ifs <;> dsimp only <;> split
    all_goals first
      | exact fun _ => ⟨rfl, rfl⟩
      | split_ifs
        · exact fun _ => ⟨rfl, rfl⟩
        · exact fun h => nomatch h
        · exact fun _ => ⟨rfl, rfl⟩
  · rw [if_neg henabled]
    exact fun h => nomatch h

end InitCache

end GlutenBridge.Velox
