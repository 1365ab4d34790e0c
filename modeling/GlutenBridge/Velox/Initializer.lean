import Mathlib.Data.List.Basic
import Mathlib.Algebra.Order.BigOperators.Group.List
import Mathlib.Algebra.Order.Ring.Nat

/-!
# `VeloxInitializer::Init`: the Hive connector's settings

`Init` builds the settings of the Hive connector from the Spark configuration `conf` and
the environment: with HDFS, `hive.hdfs.host` and `hive.hdfs.port` split off the default
file system's URI; with S3, the credentials, endpoint and access style. The URI is the
variable `VELOX_HDFS` when it is set, else `conf["spark.hadoop.fs.defaultFS"]`, which
`operator[]` makes empty when the key is absent.

A `std::string` is its characters. `find` returns `npos`, the largest `size_t`, when the
character is absent, and `hdfsUri.find(':') + 3` is `size_t` arithmetic: past `npos` it
wraps to 2. `substr(pos)` throws `std::out_of_range` when `pos` is past the end. A string
is shorter than `npos`, which the theorems take as a hypothesis.

`hdfsConfig_hostWithPort` is the split of a well-formed URI: `scheme://host:port` gives
back the host and the port, and `scheme://nameservice` (HDFS HA) the nameservice and an
empty port. `hdfsConfig_of_colon_not_mem` is the edge: a URI without a colon loses its
first two characters, and one shorter than two, the empty URI of an unset
`spark.hadoop.fs.defaultFS` among them, makes `Init` throw.

The registrations, the connector and the function registry act on Velox and folly
objects outside the repository and are not modelled; `InitCache` is modelled in
`Velox/InitCache`.
-/

set_option autoImplicit false

namespace GlutenBridge.Velox

/-! ## `std::string` -/

/-- The exceptions of the standard library `Init` and `InitCache` can meet. -/
inductive StdException where
  /-- `std::out_of_range`, thrown by `substr` past the end of the string, and by `std::stol`
  and `std::stoi` for a value outside the type. -/
  | out_of_range
  /-- `std::invalid_argument`, thrown by `std::stol` and `std::stoi` when no digit is read. -/
  | invalid_argument
deriving DecidableEq, Repr

/-- `std::string::npos`: the largest `size_t`. -/
def npos : Nat := 2 ^ 64 - 1

/-- The position of the first `c` in `s`. -/
def firstIndex (c : Char) : List Char → Option Nat
  | [] => none
  | x :: s => if x = c then some 0 else (firstIndex c s).map (· + 1)

/-- `std::string::find(c)`. -/
def find (s : List Char) (c : Char) : Nat := (firstIndex c s).getD npos

/-- `std::string::substr(pos, count)`. -/
def substr (s : List Char) (pos count : Nat) : Except StdException (List Char) :=
  if s.length < pos then .error .out_of_range else .ok ((s.drop pos).take count)

theorem firstIndex_of_not_mem {c : Char} : ∀ {s : List Char}, c ∉ s → firstIndex c s = none
  | [], _ => rfl
  | x :: s, h => by
    rw [List.mem_cons, not_or] at h
    rw [firstIndex, if_neg (Ne.symm h.1), firstIndex_of_not_mem h.2, Option.map_none']

theorem firstIndex_append_cons {c : Char} {b : List Char} :
    ∀ {a : List Char}, c ∉ a → firstIndex c (a ++ c :: b) = some a.length
  | [], _ => by simp [firstIndex]
  | x :: a, h => by
    rw [List.mem_cons, not_or] at h
    rw [List.cons_append, firstIndex, if_neg (Ne.symm h.1), firstIndex_append_cons h.2]
    rfl

theorem find_of_not_mem {c : Char} {s : List Char} (h : c ∉ s) : find s c = npos := by
  rw [find, firstIndex_of_not_mem h]
  rfl

theorem find_append_cons {c : Char} {a b : List Char} (h : c ∉ a) :
    find (a ++ c :: b) c = a.length := by
  rw [find, firstIndex_append_cons h]
  rfl

theorem substr_eq_ok {s : List Char} {pos : Nat} (hpos : pos ≤ s.length) (hs : s.length < npos) :
    substr s pos npos = .ok (s.drop pos) := by
  rw [substr, if_neg (Nat.not_lt.2 hpos), List.take_of_length_le (by simp; omega)]

/-! ## The HDFS settings -/

/-- The URI `Init` splits: `VELOX_HDFS` when it is set, else
`conf["spark.hadoop.fs.defaultFS"]`. -/
def hdfsUriOf (conf : String → Option (List Char)) (envHdfsUri : Option (List Char)) :
    List Char :=
  envHdfsUri.getD ((conf "spark.hadoop.fs.defaultFS").getD [])

/-- The `VELOX_ENABLE_HDFS` part of `Init`: the host and the port of the URI, from three
characters after its first colon on, split at the next colon; the whole rest as the host
and an empty port when there is no such colon. -/
def hdfsConfig (hdfsUri : List Char) : Except StdException (List (String × List Char)) := do
  let hdfsHostWithPort ← substr hdfsUri ((find hdfsUri ':' + 3) % 2 ^ 64) npos
  let pos := find hdfsHostWithPort ':'
  if pos ≠ npos then
    let hdfsPort ← substr hdfsHostWithPort (pos + 1) npos
    let hdfsHost ← substr hdfsHostWithPort 0 pos
    pure [("hive.hdfs.host", hdfsHost), ("hive.hdfs.port", hdfsPort)]
  else
    pure [("hive.hdfs.host", hdfsHostWithPort), ("hive.hdfs.port", [])]

/-- The split of a well-formed URI: `scheme://host:port` gives back its host and port,
and `scheme://nameservice` its nameservice and an empty port. -/
theorem hdfsConfig_hostWithPort (scheme host : List Char) (port : Option (List Char))
    (hscheme : ':' ∉ scheme) (hhost : ':' ∉ host)
    (hlen : (scheme ++ [':', '/', '/'] ++ host ++ port.elim [] (':' :: ·)).length < npos) :
    hdfsConfig (scheme ++ [':', '/', '/'] ++ host ++ port.elim [] (':' :: ·)) =
      .ok [("hive.hdfs.host", host), ("hive.hdfs.port", port.getD [])] := by
  set rest := host ++ port.elim [] (':' :: ·)
  have huri : scheme ++ [':', '/', '/'] ++ host ++ port.elim [] (':' :: ·) =
      scheme ++ ':' :: ('/' :: '/' :: rest) := by
    simp [rest]
  have hstart : (scheme.length + 3) % 2 ^ 64 = scheme.length + 3 := by
    rw [huri] at hlen
    simp only [List.length_append, List.length_cons, npos] at hlen
    exact Nat.mod_eq_of_lt (by omega)
  rw [huri] at hlen ⊢
  have hlen' : rest.length < npos := by simp only [List.length_append, List.length_cons] at hlen; omega
  have hdrop : (scheme ++ ':' :: '/' :: '/' :: rest).drop (scheme.length + 3) = rest :=
    List.drop_append 3
  rw [hdfsConfig, find_append_cons hscheme, hstart, substr_eq_ok (by simp) hlen, hdrop]
  simp only [bind, Except.bind]
  cases port with
  | none =>
    simp only [rest, Option.elim, List.append_nil] at hlen' ⊢
    rw [find_of_not_mem hhost]
    rfl
  | some port =>
    simp only [rest, Option.elim, Option.getD_some] at hlen' ⊢
    have hhost' : host.length ≠ npos := by simp only [List.length_append] at hlen'; omega
    rw [find_append_cons hhost, if_pos hhost', substr_eq_ok (by simp) hlen', substr,
      if_neg (by simp)]
    simp
    rfl

theorem hdfsConfig_hostWithPort_namenode :
    (':' ∉ "hdfs".toList ∧ ':' ∉ "namenode".toList ∧
      ("hdfs".toList ++ [':', '/', '/'] ++ "namenode".toList ++
        (some "9000".toList).elim [] (':' :: ·)).length < npos) ∧
      hdfsConfig ("hdfs".toList ++ [':', '/', '/'] ++ "namenode".toList ++
          (some "9000".toList).elim [] (':' :: ·)) =
        .ok [("hive.hdfs.host", "namenode".toList),
          ("hive.hdfs.port", (some "9000".toList).getD [])] :=
  ⟨⟨by decide, by decide, by decide⟩,
    hdfsConfig_hostWithPort _ _ _ (by decide) (by decide) (by decide)⟩

/-- A URI without a colon: `find` gives `npos`, and `npos + 3` wraps to 2. The URI loses
its first two characters, the rest becoming the host, with an empty port; a URI shorter
than two characters makes the split throw `std::out_of_range`. -/
theorem hdfsConfig_of_colon_not_mem (hdfsUri : List Char) (hcolon : ':' ∉ hdfsUri)
    (hlen : hdfsUri.length < npos) :
    hdfsConfig hdfsUri = if hdfsUri.length < 2 then .error .out_of_range
      else .ok [("hive.hdfs.host", hdfsUri.drop 2), ("hive.hdfs.port", [])] := by
  have hwrap : (npos + 3) % 2 ^ 64 = 2 := rfl
  rw [hdfsConfig, find_of_not_mem hcolon, hwrap]
  split_ifs with hshort
  · rw [substr, if_pos hshort]
    rfl
  · rw [substr_eq_ok (by omega) hlen]
    simp only [bind, Except.bind]
    rw [find_of_not_mem fun hmem => hcolon (List.mem_of_mem_drop hmem)]
    rfl

example : hdfsConfig "namenode".toList =
    .ok [("hive.hdfs.host", "menode".toList), ("hive.hdfs.port", [])] := rfl

theorem hdfsConfig_of_colon_not_mem_namenode :
    (':' ∉ "namenode".toList ∧ "namenode".toList.length < npos) ∧
      hdfsConfig "namenode".toList = if "namenode".toList.length < 2 then .error .out_of_range
        else .ok [("hive.hdfs.host", "namenode".toList.drop 2), ("hive.hdfs.port", [])] :=
  ⟨⟨by decide, by decide⟩, hdfsConfig_of_colon_not_mem _ (by decide) (by decide)⟩

/-! ## The S3 settings and the merge -/

/-- The environment variables `Init` reads, each set or not. -/
structure Environment where
  VELOX_HDFS : Option (List Char)
  AWS_ACCESS_KEY_ID : Option (List Char)
  AWS_SECRET_ACCESS_KEY : Option (List Char)
  AWS_ENDPOINT : Option (List Char)

/-- `conf[key]`: the value, or the empty string `operator[]` inserts for an absent key. -/
def confValue (conf : String → Option (List Char)) (key : String) : List Char :=
  (conf key).getD []

/-- The `VELOX_ENABLE_S3` part of `Init`: the instance-credentials flag alone when it is
`"true"`, else the keys, endpoint, SSL and path-style settings, each key and the
endpoint overridden by its environment variable. -/
def s3Config (conf : String → Option (List Char)) (env : Environment) :
    List (String × List Char) :=
  let awsAccessKey := env.AWS_ACCESS_KEY_ID.getD (confValue conf "spark.hadoop.fs.s3a.access.key")
  let awsSecretKey :=
    env.AWS_SECRET_ACCESS_KEY.getD (confValue conf "spark.hadoop.fs.s3a.secret.key")
  let awsEndpoint := env.AWS_ENDPOINT.getD (confValue conf "spark.hadoop.fs.s3a.endpoint")
  let sslEnabled := confValue conf "spark.hadoop.fs.s3a.connection.ssl.enabled"
  let pathStyleAccess := confValue conf "spark.hadoop.fs.s3a.path.style.access"
  let useInstanceCredentials := confValue conf "spark.hadoop.fs.s3a.use.instance.credentials"
  if useInstanceCredentials = "true".toList then
    [("hive.s3.use-instance-credentials", useInstanceCredentials)]
  else
    [("hive.s3.aws-access-key", awsAccessKey), ("hive.s3.aws-secret-key", awsSecretKey),
      ("hive.s3.endpoint", awsEndpoint), ("hive.s3.ssl.enabled", sslEnabled),
      ("hive.s3.path-style-access", pathStyleAccess)]

/-- The settings `Init` gives the Hive connector, with HDFS and S3 built in or not: the
HDFS settings merged into the empty map, then the S3 ones. A merge into a map moves the
entries whose keys it does not hold yet, all of them here (`configurationValues_keys`),
so it is an append. -/
def configurationValues (enableHdfs enableS3 : Bool) (conf : String → Option (List Char))
    (env : Environment) : Except StdException (List (String × List Char)) := do
  let hdfs ← if enableHdfs then hdfsConfig (hdfsUriOf conf env.VELOX_HDFS) else pure []
  pure (hdfs ++ if enableS3 then s3Config conf env else [])

theorem hdfsConfig_keys {hdfsUri : List Char} {settings : List (String × List Char)}
    (h : hdfsConfig hdfsUri = .ok settings) :
    settings.map Prod.fst = ["hive.hdfs.host", "hive.hdfs.port"] := by
  simp only [hdfsConfig, bind, Except.bind] at h
  split at h
  · cases h
  · split at h
    · split at h
      · cases h
      · split at h
        · cases h
        · cases h
          rfl
    · cases h
      rfl

theorem s3Config_keys (conf : String → Option (List Char)) (env : Environment) :
    (s3Config conf env).map Prod.fst = ["hive.s3.use-instance-credentials"] ∨
      (s3Config conf env).map Prod.fst = ["hive.s3.aws-access-key", "hive.s3.aws-secret-key",
        "hive.s3.endpoint", "hive.s3.ssl.enabled", "hive.s3.path-style-access"] := by
  simp only [s3Config]
  split_ifs
  · exact Or.inl rfl
  · exact Or.inr rfl

/-- Every setting `Init` computes has its own key: the merges lose none. -/
theorem configurationValues_keys {enableHdfs enableS3 : Bool} {conf : String → Option (List Char)}
    {env : Environment} {settings : List (String × List Char)}
    (h : configurationValues enableHdfs enableS3 conf env = .ok settings) :
    (settings.map Prod.fst).Nodup := by
  obtain ⟨hdfs, hkeys, rfl⟩ : ∃ hdfs : List (String × List Char),
      (hdfs.map Prod.fst = [] ∨ hdfs.map Prod.fst = ["hive.hdfs.host", "hive.hdfs.port"]) ∧
        settings = hdfs ++ if enableS3 then s3Config conf env else [] := by
    unfold configurationValues at h
    cases enableHdfs
    · exact ⟨[], Or.inl rfl, (Except.ok.inj h).symm⟩
    · cases hc : hdfsConfig (hdfsUriOf conf env.VELOX_HDFS) with
      | error e =>
        rw [if_pos rfl, hc] at h
        cases h
      | ok hdfs =>
        rw [if_pos rfl, hc] at h
        exact ⟨hdfs, Or.inr (hdfsConfig_keys hc), (Except.ok.inj h).symm⟩
  rw [List.map_append]
  cases enableS3
  · rw [if_neg Bool.false_ne_true, List.map_nil, List.append_nil]
    rcases hkeys with hkeys | hkeys <;> rw [hkeys] <;> decide
  · rw [if_pos rfl]
    rcases hkeys with hkeys | hkeys <;> rcases s3Config_keys conf env with hs | hs <;>
      rw [hkeys, hs] <;> decide

end GlutenBridge.Velox
