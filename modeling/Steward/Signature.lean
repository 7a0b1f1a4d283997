import Steward.Methods

/-!
# `Steward.Signature`: what a `REQCliCommand` signature covers

`verifySignature` checks the `ArgSignature` of a `REQCliCommand` message against the bytes
of `argsToString m.MethodArgs`, which is `strings.Join(args, " ")`. With the check turned
off, or for any other method, it accepts. So a signature covers the joined string, not the
argument list, and two argument lists with the same joined string get the same verdict
(`verifySignature_eq_of_argsToString_eq`).

The join is not injective: `["a b"]` and `["a", "b"]` join to the same string, and so do
`[]` and `[""]`. It is injective on the lists it can be split back from, the nonempty
lists of space-free arguments (`argsToString_injective`): there `splitOn ' '` inverts it.

`ed25519.Verify` is a parameter: the model says which bytes are checked with which key,
not what the curve computes.
-/

set_option autoImplicit false

namespace Steward

/-- `argsToString`: `strings.Join(args, " ")`. -/
def argsToString (args : List String) : String := String.intercalate " " args

/-- The fields of `nodeAuth` that `verifySignature` reads: the configuration switch
`EnableSignatureCheck` and the node's own `SignPublicKey`. -/
structure NodeAuth where
  enableSignatureCheck : Bool
  signPublicKey : List UInt8

/-- `ed25519.Verify(publicKey, message, sig)`. -/
abbrev Ed25519Verify := List UInt8 → List UInt8 → List UInt8 → Bool

/-- `verifySignature`. -/
def NodeAuth.verifySignature (verify : Ed25519Verify) (n : NodeAuth) (m : Message) : Bool :=
  if !n.enableSignatureCheck then true
  else if m.method != REQCliCommand then true
  else verify n.signPublicKey (bytesOf (argsToString m.methodArgs)) m.argSignature

/-- The characters of `argsToString args` are the characters of the arguments with a space
between each two. -/
theorem data_argsToString (args : List String) :
    (argsToString args).data = List.intercalate [' '] (args.map String.data) := by
  cases args with
  | nil => rfl
  | cons a as => exact data_intercalate_go " " as a

/-- On nonempty argument lists none of whose arguments contains a space, different lists
give different strings. -/
theorem argsToString_injective {a b : List String} (ha : a ≠ []) (hb : b ≠ [])
    (hsa : ∀ x ∈ a, ' ' ∉ x.data) (hsb : ∀ x ∈ b, ' ' ∉ x.data)
    (h : argsToString a = argsToString b) : a = b := by
  have hsplit : ∀ l : List String, l ≠ [] → (∀ x ∈ l, ' ' ∉ x.data) →
      (argsToString l).data.splitOn ' ' = l.map String.data := fun l hl hs => by
    rw [data_argsToString]
    exact List.splitOn_intercalate _ ' ' (by simpa using hs) (by simpa using hl)
  have hmap := (hsplit a ha hsa).symm.trans (h ▸ hsplit b hb hsb)
  exact List.map_injective_iff.2 (fun x y hxy => String.ext hxy) hmap

/-- `ls -l` and `ls -la` are signed over different strings. -/
theorem argsToString_ls_ne : argsToString ["ls", "-l"] ≠ argsToString ["ls", "-la"] :=
  fun h => absurd (argsToString_injective (by decide) (by decide) (by decide) (by decide) h)
    (by decide)

/-- The list `["a b"]` and the list `["a", "b"]` join to the same string. -/
theorem argsToString_not_injective :
    argsToString ["a b"] = argsToString ["a", "b"] ∧ ["a b"] ≠ ["a", "b"] := by
  decide

/-- The verdict of `verifySignature` reads the arguments only through their joined string:
argument lists with the same join get the same verdict, with any key and signature. -/
theorem verifySignature_eq_of_argsToString_eq (verify : Ed25519Verify) (n : NodeAuth)
    (m : Message) {a b : List String} (h : argsToString a = argsToString b) :
    n.verifySignature verify { m with methodArgs := a } =
      n.verifySignature verify { m with methodArgs := b } := by
  simp [NodeAuth.verifySignature, h]

/-- Only `REQCliCommand` is checked: any other method is accepted whatever its signature,
`REQCliCommandCont` included. -/
theorem verifySignature_of_ne_cliCommand (verify : Ed25519Verify) (n : NodeAuth)
    (m : Message) (h : m.method ≠ REQCliCommand) : n.verifySignature verify m = true := by
  simp [NodeAuth.verifySignature, h]

/-- A `REQCliCommandCont` with an empty signature passes a node that checks signatures,
whatever the curve says. -/
theorem verifySignature_accepts_cliCommandCont (verify : Ed25519Verify) (key : List UInt8) :
    NodeAuth.verifySignature verify ⟨true, key⟩
      { Message.zero with method := REQCliCommandCont, methodArgs := ["rm", "-rf", "/"] } =
        true :=
  verifySignature_of_ne_cliCommand verify ⟨true, key⟩ _ (by decide)

end Steward
