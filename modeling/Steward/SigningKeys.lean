import Steward.FileNaming
import Steward.Signature

/-!
# `Steward.SigningKeys`: the node's signing keys on disk

`newNodeAuth` puts the node's ed25519 key pair at `<ConfigFolder>/signing/public.key` and
`<ConfigFolder>/signing/private.key`, base64-encoded, and `loadSigningKeys` loads it at every
start. It creates the folder when it is missing. If neither key file exists it generates a
pair and writes both files. Otherwise it reads both files back. An error ends the process.

The file system is state here, and `loadSigningKeys` is a function from the file system
before to the file system after, with the keys or the error. It keeps the folders on the way
to a path (`FileSystem.parents`): a regular file there makes `os.Stat` fail with `ENOTDIR`,
which `os.IsNotExist` does not count, so such a path is found, and opening or creating it
fails.

* `loadSigningKeys_first_boot`: on a file system without either key file, with the folder
  there or missing and nothing on the way that blocks it, the generated pair is loaded and
  written to both files in base64.
* `newNodeAuth_restart`: a start that succeeded leaves a file system on which every later
  start loads the same keys and changes nothing, so `verifySignature` checks with the same
  public key after every restart. This needs only that base64 decoding inverts encoding.
* `loadSigningKeys_half_pair`: when one key file exists and the other does not, no pair is
  generated and nothing is written; the start fails on the missing file.

The key paths are distinct (`signKeyPaths_distinct`), from the model of `filepath.Join`.
`ed25519.GenerateKey` and base64 are parameters.
-/

set_option autoImplicit false

namespace Steward

/-! ### The file system -/

/-- The part of the file system the signing keys live in: the folders that exist, the text of
each file, and the paths the process may not open or create. A file holds the bytes of its
text: Go's `[]byte(s)` and `string(b)` copy bytes both ways. -/
structure FileSystem where
  dirs : List String
  files : String → Option String
  denied : List String

namespace FileSystem

/-- The path up to each slash of `cs`, after the characters `acc` (last first) before it. -/
def slashPrefixes : List Char → List Char → List String
  | _, [] => []
  | acc, c :: cs =>
    (if c = '/' then [String.mk acc.reverse] else []) ++ slashPrefixes (c :: acc) cs

/-- The folders on the way to `path`, outermost first: the path up to each of its slashes.
For `etc/signing/public.key` they are `etc` and `etc/signing`. -/
def parents (path : String) : List String := slashPrefixes [] path.data

/-- One of the folders on the way to `path` is a regular file: a system call on the path
fails there with `ENOTDIR`. -/
def underFile (fs : FileSystem) (path : String) : Bool :=
  (parents path).any fun q => (fs.files q).isSome

/-- `os.IsNotExist` of `os.Stat(path)`: neither a folder nor a file at the path, and no
regular file on the way to it, where `os.Stat` would fail with `ENOTDIR`, which
`os.IsNotExist` does not count. -/
def notExist (fs : FileSystem) (path : String) : Bool :=
  !fs.dirs.contains path && (fs.files path).isNone && !fs.underFile path

/-- The file system with `text` in the file at `path`. -/
def write (fs : FileSystem) (path text : String) : FileSystem :=
  { fs with files := fun q => if q = path then some text else fs.files q }

@[simp] theorem write_dirs (fs : FileSystem) (path text : String) :
    (fs.write path text).dirs = fs.dirs := rfl

@[simp] theorem write_denied (fs : FileSystem) (path text : String) :
    (fs.write path text).denied = fs.denied := rfl

@[simp] theorem write_files_self (fs : FileSystem) (path text : String) :
    (fs.write path text).files path = some text := if_pos rfl

theorem write_files_of_ne (fs : FileSystem) {path q : String} (text : String) (h : q ≠ path) :
    (fs.write path text).files q = fs.files q := if_neg h

theorem dirs_contains_of_notExist {fs : FileSystem} {q : String} (h : fs.notExist q = true) :
    fs.dirs.contains q = false := by
  simp_all [notExist]

theorem underFile_of_notExist {fs : FileSystem} {q : String} (h : fs.notExist q = true) :
    fs.underFile q = false := by
  simp_all [notExist]

/-- A write only adds a file. -/
theorem files_isSome_write (fs : FileSystem) (path text : String) {q : String}
    (h : (fs.files q).isSome ∨ q = path) : ((fs.write path text).files q).isSome := by
  by_cases hq : q = path
  · simp [hq]
  · simpa [write_files_of_ne _ _ hq, hq] using h

/-- A written path exists, and a path that exists keeps existing. -/
theorem notExist_write (fs : FileSystem) (path text q : String) (h : fs.notExist q = false ∨ q = path) :
    (fs.write path text).notExist q = false := by
  rcases h with h | rfl
  · simp only [notExist, underFile, Bool.and_eq_false_iff, Bool.not_eq_false',
      List.any_eq_true] at h ⊢
    rcases h with (h | h) | ⟨a, ha, hf⟩
    · exact .inl (.inl h)
    · exact .inl (.inr (by simpa using files_isSome_write fs _ text (.inl (by simpa using h))))
    · exact .inr ⟨a, ha, files_isSome_write fs _ text (.inl hf)⟩
  · simp [notExist]

/-- A write leaves the folders on the way to a path that it does not write as they were. -/
theorem underFile_write {fs : FileSystem} {path q : String} (text : String)
    (hq : path ∉ parents q) : (fs.write path text).underFile q = fs.underFile q := by
  rw [underFile, underFile, Bool.eq_iff_iff, List.any_eq_true, List.any_eq_true]
  exact exists_congr fun a => and_congr_right fun ha => by
    rw [write_files_of_ne _ _ fun h : a = path => hq (h ▸ ha)]

end FileSystem

/-- `os.MkdirAll(path, 0700)`: `path` and the folders on the way to it are folders
afterwards, those missing created; `none` for its error: one of them is a regular file
(`ENOTDIR`), or a missing one is a path the process may not create. -/
def mkdirAll (fs : FileSystem) (path : String) : Option FileSystem :=
  if (path :: FileSystem.parents path).any fun q =>
      (fs.files q).isSome || fs.denied.contains q && !fs.dirs.contains q then none
  else some { fs with dirs := path :: FileSystem.parents path ++ fs.dirs }

/-- `writeSigningKey`: the key file holds `keyB64` afterwards. `os.OpenFile` fails on a path
the process may not create, on a folder, and under a regular file (`ENOTDIR`); a write that
fails once the file is open (a full disk) is not modelled. The flat file system does not
keep the folders above a folder, so a missing parent folder (`ENOENT`) is not modelled
either: `loadSigningKeys` writes the keys after it has made sure their folder is there. The
`%v` of the error is not spelled out. -/
def writeSigningKey (fs : FileSystem) (realPath keyB64 : String) : Except String FileSystem :=
  if fs.denied.contains realPath || fs.dirs.contains realPath || fs.underFile realPath then
    .error "error: failed to open key file for writing: "
  else .ok (fs.write realPath keyB64)

/-- `readKeyFile`: the decoded key and its base64 text. `decode` is
`base64.RawStdEncoding.DecodeString`, `none` for its error. `os.Open` fails on a path the
process may not open, on a missing one and under a regular file; on a folder it succeeds and
`ReadAll` fails. -/
def readKeyFile (decode : String → Option (List UInt8)) (fs : FileSystem) (keyFile : String) :
    Except String (List UInt8 × String) :=
  if fs.denied.contains keyFile then .error "error: failed to open key file: "
  else
    match fs.files keyFile with
    | none =>
      if fs.dirs.contains keyFile then .error "error: failed to read key file: "
      else .error "error: failed to open key file: "
    | some b =>
      match decode b with
      | none => .error "error: failed to base64 decode key data: "
      | some key => .ok (key, b)

/-! ### `loadSigningKeys` -/

/-- The fields `SignKeyFolder`, `SignKeyPrivateKeyPath` and `SignKeyPublicKeyPath` of
`nodeAuth`. -/
structure SignKeyPaths where
  signKeyFolder : String
  signKeyPrivateKeyPath : String
  signKeyPublicKeyPath : String

/-- The key paths `newNodeAuth` sets from `ConfigFolder`. -/
def newNodeAuth.signKeyPaths (configFolder : String) : SignKeyPaths :=
  let signKeyFolder := Filepath.join [configFolder, "signing"]
  { signKeyFolder
    signKeyPrivateKeyPath := Filepath.join [signKeyFolder, "private.key"]
    signKeyPublicKeyPath := Filepath.join [signKeyFolder, "public.key"] }

/-- The keys `loadSigningKeys` leaves in `SignPublicKey` and `SignPrivateKey`. -/
structure SigningKeys where
  signPublicKey : List UInt8
  signPrivateKey : List UInt8
  deriving DecidableEq

/-- The folder step of `loadSigningKeys`: `os.MkdirAll` when `os.Stat` says the folder does
not exist. -/
def ensureSignKeyFolder (p : SignKeyPaths) (fs : FileSystem) : Option FileSystem :=
  if fs.notExist p.signKeyFolder then mkdirAll fs p.signKeyFolder else some fs

/-- `foundKey`: `os.Stat` finds the public or the private key file. -/
def foundKey (p : SignKeyPaths) (fs : FileSystem) : Bool :=
  !fs.notExist p.signKeyPublicKeyPath || !fs.notExist p.signKeyPrivateKeyPath

/-- `loadSigningKeys`: the file system afterwards, and the keys or the error it returns.
`generate` is what `ed25519.GenerateKey(nil)` returns, the public and the private key, or
`none` for its error; `encode` is `base64.RawStdEncoding.EncodeToString`. The `%v` of the
errors is not spelled out. -/
def loadSigningKeys (p : SignKeyPaths) (generate : Option (List UInt8 × List UInt8))
    (encode : List UInt8 → String) (decode : String → Option (List UInt8)) (fs : FileSystem) :
    FileSystem × Except String SigningKeys :=
  match ensureSignKeyFolder p fs with
  | none => (fs, .error "error: failed to create directory for signing keys : ")
  | some fs =>
    if !foundKey p fs then
      match generate with
      | none => (fs, .error "error: failed to generate ed25519 keys for signing: ")
      | some (pub, priv) =>
        match writeSigningKey fs p.signKeyPublicKeyPath (encode pub) with
        | .error er => (fs, .error er)
        | .ok fs =>
          match writeSigningKey fs p.signKeyPrivateKeyPath (encode priv) with
          | .error er => (fs, .error er)
          | .ok fs => (fs, .ok ⟨pub, priv⟩)
    else
      match readKeyFile decode fs p.signKeyPublicKeyPath with
      | .error er => (fs, .error er)
      | .ok (pubKey, _) =>
        match readKeyFile decode fs p.signKeyPrivateKeyPath with
        | .error er => (fs, .error er)
        | .ok (privKey, _) => (fs, .ok ⟨pubKey, privKey⟩)

/-- The signing part of `newNodeAuth`: the key paths from `ConfigFolder`, then
`loadSigningKeys`. On its error the process exits (`os.Exit(1)`), `none` here. -/
def newNodeAuth (enableSignatureCheck : Bool) (configFolder : String)
    (generate : Option (List UInt8 × List UInt8)) (encode : List UInt8 → String)
    (decode : String → Option (List UInt8)) (fs : FileSystem) : FileSystem × Option NodeAuth :=
  match loadSigningKeys (newNodeAuth.signKeyPaths configFolder) generate encode decode fs with
  | (fs, .ok keys) => (fs, some ⟨enableSignatureCheck, keys.signPublicKey⟩)
  | (fs, .error _) => (fs, none)

/-! ### A disk for the runs below -/

/-- A text encoding with one character per byte, the byte's code point: it stands in for
base64 in the runs below and has the round trip base64 has. -/
def byteText.encode (k : List UInt8) : String := String.mk (k.map fun b => Char.ofNat b.toNat)

/-- The inverse of `byteText.encode`. -/
def byteText.decode (s : String) : Option (List UInt8) :=
  some (s.data.map fun c => c.toNat.toUInt8)

theorem byteText_roundtrip (k : List UInt8) : byteText.decode (byteText.encode k) = some k := by
  have hb : ∀ b : UInt8, (Char.ofNat b.toNat).toNat.toUInt8 = b := fun b => by
    have hlt : b.toNat < 256 := b.toBitVec.isLt
    have hv : (b.toNat).isValidChar := Or.inl (by omega)
    rw [Char.ofNat, dif_pos hv]
    simp only [Char.ofNatAux, Char.toNat, UInt32.toNat, Nat.toUInt8, BitVec.toNat_ofNatLt]
    exact UInt8.toNat.inj (UInt8.toNat_ofNat_of_lt hlt)
  simp [byteText.decode, byteText.encode, Function.comp_def, hb]

/-- A disk with nothing on it. -/
def emptyDisk : FileSystem := ⟨[], fun _ => none, []⟩

/-- A disk on which the private key file of a node with `ConfigFolder = "./etc"` was lost:
the folder and the public key file are there. -/
def lostPrivateKey : FileSystem :=
  ⟨["etc/signing"], fun q => if q = "etc/signing/public.key" then some "\x01" else none, []⟩

/-! ### The key paths -/

/-- A kept element joined onto a non-empty folder is the last element of the joined path. -/
theorem Filepath.elemsOf_join_pair {f x : String} (hf : f ≠ "") (hx : Filepath.pathElems x = [x])
    (hk : Filepath.Kept x) (hd : x ≠ "..") :
    Filepath.elemsOf (Filepath.join [f, x]) =
      ((Filepath.pathElems f).foldl (Filepath.cleanStep (Filepath.isRooted f)) []).reverse ++ [x] := by
  obtain ⟨c, cs, hc⟩ := List.exists_cons_of_ne_nil fun h => hf (String.ext h)
  have hJ : f ++ "/" ++ x ≠ "" := fun h => by simpa [hc] using congrArg String.data h
  have hjoin : Filepath.join [f, x] = Filepath.clean (f ++ "/" ++ x) := by
    have hb : (f == "") = false := by simp [hf]
    simp only [Filepath.join, List.dropWhile, hb]
    rfl
  have hroot : Filepath.isRooted (f ++ "/" ++ x) = Filepath.isRooted f := by
    simp [Filepath.isRooted, hc]
  rw [hjoin, (Filepath.elemsOf_clean hJ).1, Filepath.pathElems_append_slash, hx, hroot,
    List.foldl_append]
  simp [Filepath.cleanStep, hk.1, hk.2.1, hd]

/-- The public and the private key path `newNodeAuth` sets are different files. -/
theorem signKeyPaths_distinct (configFolder : String) :
    (newNodeAuth.signKeyPaths configFolder).signKeyPublicKeyPath ≠
      (newNodeAuth.signKeyPaths configFolder).signKeyPrivateKeyPath := by
  simp only [newNodeAuth.signKeyPaths]
  generalize Filepath.join [configFolder, "signing"] = f
  intro h
  by_cases hf : f = ""
  · subst hf
    exact absurd h (by decide)
  · have h' := congrArg Filepath.elemsOf h
    rw [Filepath.elemsOf_join_pair hf (by decide) ⟨by decide, by decide, by decide⟩ (by decide),
      Filepath.elemsOf_join_pair hf (by decide) ⟨by decide, by decide, by decide⟩ (by decide)] at h'
    simp at h'

/-! ### One start -/

section Start

variable (p : SignKeyPaths) (encode : List UInt8 → String) (decode : String → Option (List UInt8))

/-- `os.MkdirAll` succeeds on a missing path when none of the folders it creates is one the
process may not create. -/
theorem mkdirAll_of_notExist {fs : FileSystem} {path : String} (hn : fs.notExist path = true)
    (hden : ∀ q ∈ path :: FileSystem.parents path, fs.denied.contains q = false) :
    mkdirAll fs path = some { fs with dirs := path :: FileSystem.parents path ++ fs.dirs } := by
  -- the path is missing, and no folder on the way to it is a file
  have hfiles : ∀ q ∈ path :: FileSystem.parents path, fs.files q = none := by
    simp only [FileSystem.notExist, FileSystem.underFile, Bool.and_eq_true, Bool.not_eq_true',
      Option.isNone_iff_eq_none, List.any_eq_false, Option.not_isSome,
      Option.isNone_iff_eq_none] at hn
    simpa [hn.1.2] using hn.2
  rw [mkdirAll, if_neg]
  simp only [List.any_eq_true, not_exists, not_and]
  intro q hq
  simp only [hfiles q hq, hden q hq, Option.isSome_none, Bool.false_and, Bool.or_false,
    Bool.false_eq_true, not_false_eq_true]

/-- The folder step only adds the folder and the folders on the way to it: files and
permissions stay, and every other path exists as it did. -/
theorem ensureSignKeyFolder_frame {fs fs₁ : FileSystem} (h : ensureSignKeyFolder p fs = some fs₁) :
    fs₁.files = fs.files ∧ fs₁.denied = fs.denied ∧
      ∀ q, q ∉ p.signKeyFolder :: FileSystem.parents p.signKeyFolder →
        fs₁.notExist q = fs.notExist q := by
  unfold ensureSignKeyFolder mkdirAll at h
  split_ifs at h <;> cases h <;> simp_all [FileSystem.notExist, FileSystem.underFile]

/-- After the folder step the folder exists. -/
theorem ensureSignKeyFolder_exists {fs fs₁ : FileSystem} (h : ensureSignKeyFolder p fs = some fs₁) :
    fs₁.notExist p.signKeyFolder = false := by
  unfold ensureSignKeyFolder at h
  split_ifs at h with h₁
  · unfold mkdirAll at h
    split_ifs at h
    cases h
    simp [FileSystem.notExist]
  · cases h
    simpa using h₁

theorem ensureSignKeyFolder_of_exists {fs : FileSystem} (h : fs.notExist p.signKeyFolder = false) :
    ensureSignKeyFolder p fs = some fs := by
  simp [ensureSignKeyFolder, h]

/-- The folder step does nothing the second time. -/
theorem loadSigningKeys_ensure (generate : Option (List UInt8 × List UInt8)) {fs fs₁ : FileSystem}
    (h : ensureSignKeyFolder p fs = some fs₁) :
    loadSigningKeys p generate encode decode fs = loadSigningKeys p generate encode decode fs₁ := by
  rw [loadSigningKeys, h, loadSigningKeys,
    ensureSignKeyFolder_of_exists p (ensureSignKeyFolder_exists p h)]

theorem writeSigningKey_eq_ok {fs fs₂ : FileSystem} {path text : String} :
    writeSigningKey fs path text = .ok fs₂ ↔
      fs.denied.contains path = false ∧ fs.dirs.contains path = false ∧
        fs.underFile path = false ∧ fs.write path text = fs₂ := by
  unfold writeSigningKey
  cases fs.denied.contains path <;> cases fs.dirs.contains path <;> cases fs.underFile path <;>
    simp

theorem readKeyFile_eq_ok {fs : FileSystem} {path text : String} {key : List UInt8}
    (hd : fs.denied.contains path = false) (hf : fs.files path = some text)
    (hk : decode text = some key) : readKeyFile decode fs path = .ok (key, text) := by
  simp only [readKeyFile, hd, hf, hk, Bool.false_eq_true, if_false]

/-- A key read back is a file that exists. -/
theorem readKeyFile_files {fs : FileSystem} {path : String} {r : List UInt8 × String}
    (h : readKeyFile decode fs path = .ok r) : (fs.files path).isSome := by
  unfold readKeyFile at h
  cases hf : fs.files path with
  | none => simp only [hf] at h; split_ifs at h
  | some b => rfl

/-- With the folder there and a key file found, a start reads both key files and writes
nothing; the generator is not used. -/
theorem loadSigningKeys_of_found (generate generate' : Option (List UInt8 × List UInt8))
    {fs : FileSystem} (hF : fs.notExist p.signKeyFolder = false) (hk : foundKey p fs = true) :
    loadSigningKeys p generate encode decode fs = loadSigningKeys p generate' encode decode fs ∧
      (loadSigningKeys p generate encode decode fs).1 = fs ∧
      ∀ keys, (loadSigningKeys p generate encode decode fs).2 = .ok keys →
        (∃ r, readKeyFile decode fs p.signKeyPublicKeyPath = .ok (keys.signPublicKey, r)) ∧
          ∃ r, readKeyFile decode fs p.signKeyPrivateKeyPath = .ok (keys.signPrivateKey, r) := by
  simp only [loadSigningKeys, ensureSignKeyFolder_of_exists p hF, hk, Bool.not_true,
    Bool.false_eq_true, if_false]
  refine ⟨trivial, ?_, fun keys h => ?_⟩
  · split
    · rfl
    · split <;> rfl
  · split at h
    · cases h
    · next pubKey _ hpub =>
      split at h
      · cases h
      · next privKey _ hpriv =>
        cases h
        exact ⟨⟨_, hpub⟩, _, hpriv⟩

/-- A start that found no key file and succeeded generated the pair, and wrote the public
and then the private key, each to a path it may create. -/
theorem loadSigningKeys_generated (generate : Option (List UInt8 × List UInt8))
    {fs fs' : FileSystem} {keys : SigningKeys} (hF : fs.notExist p.signKeyFolder = false)
    (hk : foundKey p fs = false) (h : loadSigningKeys p generate encode decode fs = (fs', .ok keys)) :
    generate = some (keys.signPublicKey, keys.signPrivateKey) ∧
      fs.denied.contains p.signKeyPublicKeyPath = false ∧
      fs.denied.contains p.signKeyPrivateKeyPath = false ∧
      fs' = (fs.write p.signKeyPublicKeyPath (encode keys.signPublicKey)).write
        p.signKeyPrivateKeyPath (encode keys.signPrivateKey) := by
  simp only [loadSigningKeys, ensureSignKeyFolder_of_exists p hF, hk, Bool.not_false,
    if_true] at h
  split at h
  · cases h
  · next pub priv =>
    split at h
    · cases h
    · next fs₂ hw₁ =>
      split at h
      · cases h
      · next fs₃ hw₂ =>
        obtain ⟨hd₁, -, -, rfl⟩ := writeSigningKey_eq_ok.1 hw₁
        obtain ⟨hd₂, -, -, rfl⟩ := writeSigningKey_eq_ok.1 hw₂
        cases h
        exact ⟨rfl, hd₁, hd₂, rfl⟩

/-- With the folder there and both key files read, a start loads what it read. -/
theorem loadSigningKeys_of_reads (generate : Option (List UInt8 × List UInt8)) {fs : FileSystem}
    (hF : fs.notExist p.signKeyFolder = false) (hk : foundKey p fs = true)
    {pub priv : List UInt8} {textPub textPriv : String}
    (hpub : readKeyFile decode fs p.signKeyPublicKeyPath = .ok (pub, textPub))
    (hpriv : readKeyFile decode fs p.signKeyPrivateKeyPath = .ok (priv, textPriv)) :
    loadSigningKeys p generate encode decode fs = (fs, .ok ⟨pub, priv⟩) := by
  simp only [loadSigningKeys, ensureSignKeyFolder_of_exists p hF, hk, Bool.not_true,
    Bool.false_eq_true, if_false, hpub, hpriv]

/-- With the folder there and no key file found, a start that writes both keys loads the
generated pair. -/
theorem loadSigningKeys_of_writes {fs fs₂ fs₃ : FileSystem} {pub priv : List UInt8}
    (hF : fs.notExist p.signKeyFolder = false) (hk : foundKey p fs = false)
    (hw₁ : writeSigningKey fs p.signKeyPublicKeyPath (encode pub) = .ok fs₂)
    (hw₂ : writeSigningKey fs₂ p.signKeyPrivateKeyPath (encode priv) = .ok fs₃) :
    loadSigningKeys p (some (pub, priv)) encode decode fs = (fs₃, .ok ⟨pub, priv⟩) := by
  simp only [loadSigningKeys, ensureSignKeyFolder_of_exists p hF, hk, Bool.not_false, if_true,
    hw₁, hw₂]

/-- A start that succeeded leaves a file system on which the next start, with any generator,
loads the same keys and changes nothing. -/
theorem loadSigningKeys_restart (generate generate' : Option (List UInt8 × List UInt8))
    {fs fs' : FileSystem} {keys : SigningKeys} (hdec : ∀ k, decode (encode k) = some k)
    (hp : p.signKeyPublicKeyPath ≠ p.signKeyPrivateKeyPath)
    (h : loadSigningKeys p generate encode decode fs = (fs', .ok keys)) :
    loadSigningKeys p generate' encode decode fs' = (fs', .ok keys) := by
  cases hf : ensureSignKeyFolder p fs with
  | none => simp [loadSigningKeys, hf] at h
  | some fs₁ =>
    rw [loadSigningKeys_ensure p encode decode generate hf] at h
    have hF := ensureSignKeyFolder_exists p hf
    cases hk : foundKey p fs₁
    · -- the first start generated the pair and wrote both files: the next one reads them
      obtain ⟨-, hd₁, hd₂, rfl⟩ := loadSigningKeys_generated p encode decode generate hF hk h
      have hk' : foundKey p ((fs₁.write p.signKeyPublicKeyPath (encode keys.signPublicKey)).write
          p.signKeyPrivateKeyPath (encode keys.signPrivateKey)) = true := by
        simp [foundKey, FileSystem.notExist_write _ _ _ _ (.inr rfl)]
      refine loadSigningKeys_of_reads p encode decode generate'
        (FileSystem.notExist_write _ _ _ _ (.inl (FileSystem.notExist_write _ _ _ _ (.inl hF))))
        hk' (readKeyFile_eq_ok decode (by simpa using hd₁) ?_ (hdec _))
        (readKeyFile_eq_ok decode (by simpa using hd₂) (by simp) (hdec _))
      rw [FileSystem.write_files_of_ne _ _ hp, FileSystem.write_files_self]
    · -- the first start read the pair: the next one reads the same files
      obtain ⟨he, h₁, -⟩ := loadSigningKeys_of_found p encode decode generate generate' hF hk
      rw [h] at h₁
      cases h₁
      rw [← he, h]

/-- On a file system where the signing folder is a folder or is missing and neither key file
exists, where no path on the way may not be created, and where neither key path is the
folder, lies on the way to it, or lies on the way to the other key, a start generates the
pair, loads it and writes it, base64-encoded, to the two files. -/
theorem loadSigningKeys_first_boot {pub priv : List UInt8} {fs : FileSystem}
    (hfolder : fs.dirs.contains p.signKeyFolder = true ∨ fs.notExist p.signKeyFolder = true)
    (hnone : fs.notExist p.signKeyPublicKeyPath = true ∧ fs.notExist p.signKeyPrivateKeyPath = true)
    (hden : ∀ q ∈ p.signKeyFolder :: FileSystem.parents p.signKeyFolder ++
      [p.signKeyPublicKeyPath, p.signKeyPrivateKeyPath], fs.denied.contains q = false)
    (hdist : p.signKeyPublicKeyPath ∉ p.signKeyFolder :: FileSystem.parents p.signKeyFolder ∧
      p.signKeyPrivateKeyPath ∉ p.signKeyFolder :: FileSystem.parents p.signKeyFolder ∧
      p.signKeyPublicKeyPath ∉ p.signKeyPrivateKeyPath :: FileSystem.parents p.signKeyPrivateKeyPath) :
    ∃ fs', loadSigningKeys p (some (pub, priv)) encode decode fs = (fs', .ok ⟨pub, priv⟩) ∧
      fs'.files p.signKeyPublicKeyPath = some (encode pub) ∧
      fs'.files p.signKeyPrivateKeyPath = some (encode priv) := by
  obtain ⟨fs₁, hf⟩ : ∃ fs₁, ensureSignKeyFolder p fs = some fs₁ := by
    rcases hfolder with hd | hn
    · exact ⟨fs, ensureSignKeyFolder_of_exists p
        (by simp only [FileSystem.notExist, hd, Bool.not_true, Bool.false_and])⟩
    · exact ⟨_, (if_pos hn).trans
        (mkdirAll_of_notExist hn fun q hq => hden q (List.mem_append_left _ hq))⟩
  obtain ⟨hfiles, hdenied, hexist⟩ := ensureSignKeyFolder_frame p hf
  have hpub := (hexist _ hdist.1).trans hnone.1
  have hpriv := (hexist _ hdist.2.1).trans hnone.2
  have hk : foundKey p fs₁ = false := by simp [foundKey, hpub, hpriv]
  have hne : p.signKeyPublicKeyPath ≠ p.signKeyPrivateKeyPath := fun h => hdist.2.2 (h ▸ .head _)
  refine ⟨_, (loadSigningKeys_ensure p encode decode _ hf).trans
      (loadSigningKeys_of_writes p encode decode (ensureSignKeyFolder_exists p hf) hk
        (writeSigningKey_eq_ok.2 ⟨hdenied ▸ hden _ (by simp),
          FileSystem.dirs_contains_of_notExist hpub, FileSystem.underFile_of_notExist hpub, rfl⟩)
        (writeSigningKey_eq_ok.2 ⟨hdenied ▸ hden _ (by simp),
          (FileSystem.dirs_contains_of_notExist hpriv :),
          (FileSystem.underFile_write _ fun h => hdist.2.2 (.tail _ h)).trans
            (FileSystem.underFile_of_notExist hpriv), rfl⟩)),
    ?_, FileSystem.write_files_self _ _ _⟩
  rw [FileSystem.write_files_of_ne _ _ hne, FileSystem.write_files_self]

/-- The first start of a node with `ConfigFolder = "./etc"` on an empty disk. -/
theorem loadSigningKeys_first_boot_etc :
    ∃ fs', loadSigningKeys (newNodeAuth.signKeyPaths "./etc") (some ([1], [2])) byteText.encode
        byteText.decode emptyDisk = (fs', .ok ⟨[1], [2]⟩) ∧
      fs'.files (newNodeAuth.signKeyPaths "./etc").signKeyPublicKeyPath =
        some (byteText.encode [1]) ∧
      fs'.files (newNodeAuth.signKeyPaths "./etc").signKeyPrivateKeyPath =
        some (byteText.encode [2]) :=
  loadSigningKeys_first_boot _ byteText.encode byteText.decode (.inr (by decide))
    ⟨by decide, by decide⟩ (by decide) ⟨by decide, by decide, by decide⟩

/-- When one key file exists and the other does not, a start generates no pair and writes
no file, and it fails. -/
theorem loadSigningKeys_half_pair (generate : Option (List UInt8 × List UInt8))
    (fs : FileSystem)
    (hone : (fs.files p.signKeyPublicKeyPath).isSome ∧ (fs.files p.signKeyPrivateKeyPath).isNone ∨
      (fs.files p.signKeyPublicKeyPath).isNone ∧ (fs.files p.signKeyPrivateKeyPath).isSome) :
    (loadSigningKeys p generate encode decode fs).1.files = fs.files ∧
      ∃ er, (loadSigningKeys p generate encode decode fs).2 = .error er := by
  cases hf : ensureSignKeyFolder p fs with
  | none => simp [loadSigningKeys, hf]
  | some fs₁ =>
    obtain ⟨hfiles, -, -⟩ := ensureSignKeyFolder_frame p hf
    rw [loadSigningKeys_ensure p encode decode generate hf]
    have hk : foundKey p fs₁ = true := by
      rcases hone with ⟨h, -⟩ | ⟨-, h⟩ <;>
        simp [foundKey, FileSystem.notExist, hfiles, h]
    obtain ⟨-, h₁, hok⟩ :=
      loadSigningKeys_of_found p encode decode generate generate (ensureSignKeyFolder_exists p hf) hk
    refine ⟨by rw [h₁, hfiles], ?_⟩
    cases hr : (loadSigningKeys p generate encode decode fs₁).2 with
    | error er => exact ⟨er, rfl⟩
    | ok keys =>
      obtain ⟨⟨_, hpub⟩, _, hpriv⟩ := hok keys hr
      have h₁ := readKeyFile_files decode hpub
      have h₂ := readKeyFile_files decode hpriv
      rw [hfiles] at h₁ h₂
      rcases hone with ⟨-, h⟩ | ⟨h, -⟩ <;> simp_all

/-- With its private key file lost, the node does not start: it fails to open that file. -/
theorem lostPrivateKey_fails :
    ((loadSigningKeys (newNodeAuth.signKeyPaths "./etc") (some ([1], [2])) byteText.encode
        byteText.decode lostPrivateKey).1.files = lostPrivateKey.files ∧
      ∃ er, (loadSigningKeys (newNodeAuth.signKeyPaths "./etc") (some ([1], [2]))
        byteText.encode byteText.decode lostPrivateKey).2 = .error er) ∧
    (loadSigningKeys (newNodeAuth.signKeyPaths "./etc") (some ([1], [2])) byteText.encode
        byteText.decode lostPrivateKey).2 = .error "error: failed to open key file: " :=
  ⟨loadSigningKeys_half_pair _ byteText.encode byteText.decode _ _ (.inl ⟨by decide, by decide⟩),
    rfl⟩

end Start

/-- A node that started leaves its key files so that every later start, whatever the key
generator gives, builds the same `nodeAuth` and changes nothing on disk: `verifySignature`
checks with the same public key after every restart. -/
theorem newNodeAuth_restart (enableSignatureCheck : Bool) (configFolder : String)
    (generate generate' : Option (List UInt8 × List UInt8)) (encode : List UInt8 → String)
    (decode : String → Option (List UInt8)) {fs fs' : FileSystem} {n : NodeAuth}
    (hdec : ∀ k, decode (encode k) = some k)
    (h : newNodeAuth enableSignatureCheck configFolder generate encode decode fs = (fs', some n)) :
    newNodeAuth enableSignatureCheck configFolder generate' encode decode fs' = (fs', some n) := by
  unfold newNodeAuth at h ⊢
  split at h
  · next fs₂ keys hl =>
    cases h
    rw [loadSigningKeys_restart _ encode decode generate generate' hdec
      (signKeyPaths_distinct configFolder) hl]
  · cases h

/-- A node with `ConfigFolder = "./etc"` starts on an empty disk, and starts again on the
disk it left with the same `nodeAuth`, even with a key generator that fails. -/
theorem newNodeAuth_restart_etc :
    ∃ fs' n, newNodeAuth true "./etc" (some ([1], [2])) byteText.encode byteText.decode
        emptyDisk = (fs', some n) ∧
      newNodeAuth true "./etc" none byteText.encode byteText.decode fs' = (fs', some n) :=
  ⟨_, _, rfl, @newNodeAuth_restart true "./etc" (some ([1], [2])) none byteText.encode
    byteText.decode emptyDisk _ _ byteText_roundtrip rfl⟩

end Steward
