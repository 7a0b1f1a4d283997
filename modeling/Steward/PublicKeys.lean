import Steward.SigningKeys

/-!
# `Steward.PublicKeys`: the store of other nodes' public keys on disk

`newNodeAuth` builds `publicKeys` with `newPublicKeys`: an empty `keysAndHash`, the file
`<DatabaseFolder>/publickeys.txt`, and `loadFromFile`. `loadFromFile` reads the file back with
`json.Unmarshal` into the `keysAndHash` already there; a missing file is no error, and a load
error is only logged, so the node starts either way. `saveToFile` opens the file with
`O_CREATE|O_TRUNC` and writes `json.Marshal` of the keys.

`os.Stat` counts a path under a regular file as existing (`ENOTDIR` is not
`os.IsNotExist`), so there `loadFromFile` goes on to `os.OpenFile`, which fails. A load that
fails leaves the store as it was (`loadFromFile_of_error`).

JSON is a parameter, as base64 is in `Steward.SigningKeys`: `marshal` for `json.Marshal`,
which does not fail on a map of byte slices and a byte array, and `unmarshal` for the
decoding of a text.
-/

set_option autoImplicit false

namespace Steward

/-- `keysAndHash`: the public key of each node the store holds, and the hash of the whole
set. A Go map is a function to `Option` here. -/
structure KeysAndHash where
  keys : Node → Option (List UInt8)
  hash : List UInt8

/-- `newKeysAndHash`: no key, and the zero `[32]byte` hash. -/
def newKeysAndHash : KeysAndHash := ⟨fun _ => none, List.replicate 32 0⟩

/-- `json.Unmarshal(b, &p.keysAndHash)` into the struct already there. `unmarshal` is what the
text decodes to, `.error` for the decoder's error, after which the struct is left as it was.
Decoding into a map that is not nil adds the text's keys to it, and the map keeps its other
keys; the hash is the text's. -/
def unmarshalInto (unmarshal : String → Except String KeysAndHash) (kh : KeysAndHash)
    (b : String) : Except String KeysAndHash :=
  (unmarshal b).map fun d => ⟨fun n => (d.keys n).or (kh.keys n), d.hash⟩

/-- `publicKeys`: the keys, and the path of their file. -/
structure PublicKeys where
  keysAndHash : KeysAndHash
  filePath : String

/-- The error `io.ReadAll` returns on a folder opened for reading. -/
def isADirectory (path : String) : String := "read " ++ path ++ ": is a directory"

/-- `loadFromFile`: the store after reading its file, and the error returned. `os.Stat` finding
nothing is no error and leaves the store as it is; `os.OpenFile` fails on a path the process
may not open and under a regular file; a folder opens, and `io.ReadAll` fails on it. The
`%v` of the open error is not spelled out. -/
def PublicKeys.loadFromFile (unmarshal : String → Except String KeysAndHash) (fs : FileSystem)
    (p : PublicKeys) : PublicKeys × Option String :=
  if fs.notExist p.filePath then (p, none)
  else if fs.denied.contains p.filePath then (p, some "error: failed to open public keys file: ")
  else
    match fs.files p.filePath with
    | none =>
      if fs.dirs.contains p.filePath then (p, some (isADirectory p.filePath))
      else (p, some "error: failed to open public keys file: ")
    | some b =>
      match unmarshalInto unmarshal p.keysAndHash b with
      | .error err => (p, some err)
      | .ok kh => ({ p with keysAndHash := kh }, none)

/-- `newPublicKeys`: an empty store at `<DatabaseFolder>/publickeys.txt`, loaded from its file.
The load error is only logged; it is returned here. -/
def newPublicKeys (unmarshal : String → Except String KeysAndHash) (databaseFolder : String)
    (fs : FileSystem) : PublicKeys × Option String :=
  PublicKeys.loadFromFile unmarshal fs
    ⟨newKeysAndHash, Filepath.join [databaseFolder, "publickeys.txt"]⟩

/-- `saveToFile`: the file system with the keys' JSON as the whole text of their file, or the
error. `os.OpenFile` with `O_RDWR|O_CREATE|O_TRUNC` fails on a path the process may not
create, on a folder and under a regular file; a write that fails once the file is open is
not modelled, nor, as for `writeSigningKey`, a missing parent folder. The `%v` of the open
error is not spelled out. -/
def PublicKeys.saveToFile (marshal : KeysAndHash → String) (fs : FileSystem) (p : PublicKeys) :
    Except String FileSystem :=
  if fs.denied.contains p.filePath || fs.dirs.contains p.filePath || fs.underFile p.filePath then
    .error "error: failed to open public keys file: "
  else .ok (fs.write p.filePath (marshal p.keysAndHash))

/-- A load that fails leaves the store as it was, with the keys it already held. -/
theorem loadFromFile_of_error (unmarshal : String → Except String KeysAndHash)
    {fs : FileSystem} {p : PublicKeys} {err : String}
    (h : (p.loadFromFile unmarshal fs).2 = some err) : (p.loadFromFile unmarshal fs).1 = p := by
  revert h
  unfold PublicKeys.loadFromFile
  split_ifs
  · exact fun _ => rfl
  · exact fun _ => rfl
  all_goals
    cases fs.files p.filePath with
    | none => exact fun _ => rfl
    | some b =>
      dsimp only
      cases unmarshalInto unmarshal p.keysAndHash b with
      | error => exact fun _ => rfl
      | ok kh => exact fun h => nomatch h

end Steward
