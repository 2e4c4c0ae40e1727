import AppDeploy.Proofs.Image.CommandIdentity

/-!
# Which variables hold the secrets of a build

A docker build is handed its secrets in variables, and the options of its command line tell which.
The name of such a variable does not keep the whole name of a secret: `secretVariable_eq_iff` says
which names become one. The secrets with these names are all said to be in one variable, and there
is one value in it, that of the secret that was written last (`get?_variablesOf`). The secrets come
in no order. So a secret is found for certain only if those that share its variable have the same
value, and all secrets are found exactly if this is so for each of them (`bound_iff_apart`).
-/

namespace AppDeploy.Command

/-! ## Names that share a variable -/

/-- Characters that the name of a variable does not tell apart: of a letter or digit it keeps the
big form, and of any other character nothing. -/
inductive AlikeChars : Char → Char → Prop
  | kept {c d : Char} (hc : c.isAlphanum = true) (hd : d.isAlphanum = true)
      (h : c.toUpper = d.toUpper) : AlikeChars c d
  | lost {c d : Char} (hc : c.isAlphanum = false) (hd : d.isAlphanum = false) : AlikeChars c d

/-- Names that differ, at most, in characters that are not told apart. -/
def Alike (id id' : String) : Prop :=
  List.Forall₂ AlikeChars id.toList id'.toList

/-- No big letter is the underscore that stands for what is not kept. -/
theorem toUpper_ne_underscore {c : Char} (h : c.isAlphanum = true) : c.toUpper ≠ '_' := by
  intro heq
  unfold Char.toUpper at heq
  split at heq
  case isTrue hsmall =>
    have hval : (c.val + ('A'.val - 'a'.val)).toNat = '_'.val.toNat :=
      congrArg (fun c => c.val.toNat) heq
    have hlow : 97 ≤ c.val.toNat := hsmall.1
    have hhigh : c.val.toNat ≤ 122 := hsmall.2
    have hshift : ('A'.val - 'a'.val).toNat = 2 ^ 32 - 32 := rfl
    have hunderscore : '_'.val.toNat = 95 := rfl
    rw [UInt32.toNat_add, hshift, hunderscore] at hval
    omega
  case isFalse =>
    subst heq
    exact absurd h (by decide)

theorem variableChar_eq_iff {c d : Char} : variableChar c = variableChar d ↔ AlikeChars c d := by
  constructor
  · intro h
    rw [variableChar, variableChar] at h
    cases hc : c.isAlphanum <;> cases hd : d.isAlphanum
    case false.false => exact .lost hc hd
    case false.true => exact absurd (by simpa [hc, hd] using h.symm) (toUpper_ne_underscore hd)
    case true.false => exact absurd (by simpa [hc, hd] using h) (toUpper_ne_underscore hc)
    case true.true => exact .kept hc hd (by simpa [hc, hd] using h)
  · intro h
    cases h with
    | kept hc hd h => rw [variableChar, variableChar, if_pos hc, if_pos hd, h]
    | lost hc hd => simp [variableChar, hc, hd]

theorem secretVariable_eq_iff {id id' : String} :
    secretVariable id = secretVariable id' ↔ Alike id id' := by
  have hchars : secretVariable id = secretVariable id' ↔
      id.toList.map variableChar = id'.toList.map variableChar := by
    simp [secretVariable, ← String.toList_inj]
  rw [hchars, ← List.forall₂_eq_eq_eq, List.forall₂_map_left_iff, List.forall₂_map_right_iff]
  simp only [variableChar_eq_iff, Alike]

/-! ## Values of variables -/

/-- The variables of a docker build whose secrets come in some order. -/
def variablesOf (listing : List (String × String)) : Table String :=
  (Table.ofList (listing.map fun (id, value) => (secretVariable id, value))).insert
    "DOCKER_BUILDKIT" "1"

/-- A docker build whose secrets come in some order. -/
def dockerBuildOf (r : BuildRequest) (listing : List (String × String))
    (tag dockerfile : String) : Command :=
  { dockerBuild r tag dockerfile with env := variablesOf listing }

theorem dockerBuildOf_entries (r : BuildRequest) (tag dockerfile : String) :
    dockerBuildOf r r.secrets.entries tag dockerfile = dockerBuild r tag dockerfile :=
  rfl

theorem secretVariable_ne (id : String) : secretVariable id ≠ "DOCKER_BUILDKIT" := by
  intro h
  have hfirst := congrArg (fun s => s.toList.head?) h
  simp [secretVariable, secretVariableStart] at hfirst

/-- The variable of a secret has the value of the last secret that has this variable. -/
theorem get?_variablesOf (listing : List (String × String)) (id : String) :
    (variablesOf listing).get? (secretVariable id) =
      (listing.reverse.map fun (id, value) => (secretVariable id, value)).lookup
        (secretVariable id) := by
  rw [variablesOf, Table.get?_insert, if_neg (secretVariable_ne id), Table.get?_ofList,
    List.map_reverse]

/-- A variable has a value of one of the secrets that have it. -/
theorem exists_alike_of_mem {listing : List (String × String)} {id value : String}
    (h : (id, value) ∈ listing) :
    ∃ id' value', (id', value') ∈ listing ∧ Alike id id' ∧
      (variablesOf listing).get? (secretVariable id) = some value' := by
  have hsome : (variablesOf listing).get? (secretVariable id) ≠ none := by
    rw [get?_variablesOf, Ne, List.lookup_eq_none_iff]
    intro hnone
    simpa using hnone _ (List.mem_map_of_mem (List.mem_reverse.2 h))
  obtain ⟨found, hfound⟩ := Option.ne_none_iff_exists'.1 hsome
  obtain ⟨before, after, hsplit, -⟩ := List.lookup_eq_some_iff.1
    ((get?_variablesOf listing id).symm.trans hfound)
  have hmem : (secretVariable id, found) ∈
      listing.reverse.map fun (id, value) => (secretVariable id, value) := by
    rw [hsplit]
    exact List.mem_append_right before List.mem_cons_self
  obtain ⟨⟨id', value'⟩, hentry, heq⟩ := List.mem_map.1 hmem
  obtain ⟨hvariable, rfl⟩ := Prod.mk.inj heq
  exact ⟨id', value', List.mem_reverse.1 hentry, secretVariable_eq_iff.1 hvariable.symm, hfound⟩

/-- The secret that comes last has its own value in its variable. -/
theorem get?_variablesOf_concat (listing : List (String × String)) (id value : String) :
    (variablesOf (listing ++ [(id, value)])).get? (secretVariable id) = some value := by
  rw [get?_variablesOf, List.reverse_append, List.reverse_singleton, List.singleton_append,
    List.map_cons, List.lookup_cons_self]

/-! ## Secrets that are found -/

/-- A command tells of one variable that a secret is in, and there is the value of it. -/
def Binds (c : Command) (id value : String) : Prop :=
  ∃ var, (∀ v, s!"id={id},env={v}" ∈ optionValues "--secret" c.args ↔ v = var) ∧
    c.env.get? var = some value

/-- All of some secrets are found by what a command tells of them. -/
def BindsAll (c : Command) (secrets : Table String) : Prop :=
  ∀ id value, secrets.get? id = some value → c.Binds id value

/-- A secret has no other value than the secrets with names alike its own. -/
def Unrivalled (secrets : Table String) (id value : String) : Prop :=
  ∀ id' value', secrets.get? id' = some value' → Alike id id' → value' = value

/-- Secrets that have different values have names that are told apart. -/
def Apart (secrets : Table String) : Prop :=
  ∀ id value, secrets.get? id = some value → Unrivalled secrets id value

variable {r : BuildRequest} {listing : List (String × String)} {texts : List String}
  {id value tag dockerfile : String}

/-- A build names the variable of each of its secrets, and no other for it. -/
theorem mem_secret_options_iff (hread : Assignment.readAll texts = .ok r.secrets)
    (h : r.secrets.get? id = some value) (v : String) :
    s!"id={id},env={v}" ∈ optionValues "--secret" (dockerBuildArgs r tag dockerfile) ↔
      v = secretVariable id := by
  have hkey : id ∈ r.secrets.keys := Table.mem_keys_iff.2 (by simp [h])
  rw [optionValues_dockerBuildArgs, optionValues_dockerBuildTail]
  simp only [String.reduceEq, if_false, if_true, List.nil_append, List.mem_append, List.not_mem_nil,
    or_false, List.mem_map]
  constructor
  · rintro ⟨other, hother, heq⟩
    obtain ⟨rfl, rfl⟩ := secretOption_inj heq (Assignment.notMem_of_mem_keys hread hother)
      (Assignment.notMem_of_mem_keys hread hkey)
    rfl
  · rintro rfl
    exact ⟨id, hkey, rfl⟩

theorem binds_iff (hread : Assignment.readAll texts = .ok r.secrets)
    (h : r.secrets.get? id = some value) :
    (dockerBuildOf r listing tag dockerfile).Binds id value ↔
      (variablesOf listing).get? (secretVariable id) = some value := by
  constructor
  · rintro ⟨var, hvar, hvalue⟩
    have hsame : secretVariable id = var :=
      (hvar _).1 ((mem_secret_options_iff hread h _).2 rfl)
    rw [hsame]
    exact hvalue
  · intro hvalue
    exact ⟨secretVariable id, mem_secret_options_iff hread h, hvalue⟩

theorem binds_of_unrivalled (hread : Assignment.readAll texts = .ok r.secrets)
    (hlisting : listing.Perm r.secrets.entries) (hid : r.secrets.get? id = some value)
    (h : Unrivalled r.secrets id value) :
    (dockerBuildOf r listing tag dockerfile).Binds id value := by
  obtain ⟨id', value', hmem, halike, hvalue⟩ :=
    exists_alike_of_mem (hlisting.mem_iff.2 (Table.mem_entries_iff.2 hid))
  have hid' := Table.mem_entries_iff.1 (hlisting.mem_iff.1 hmem)
  rw [binds_iff hread hid, hvalue, h id' value' hid' halike]

theorem bindsAll_iff (hread : Assignment.readAll texts = .ok r.secrets)
    (hlisting : listing.Perm r.secrets.entries) :
    (dockerBuildOf r listing tag dockerfile).BindsAll r.secrets ↔ Apart r.secrets := by
  constructor
  · intro h id value hid id' value' hid' halike
    have hvalue := (binds_iff hread hid).1 (h id value hid)
    have hvalue' := (binds_iff hread hid').1 (h id' value' hid')
    rw [secretVariable_eq_iff.2 halike, hvalue'] at hvalue
    exact Option.some.inj hvalue
  · intro h id value hid
    exact binds_of_unrivalled hread hlisting hid (h id value hid)

/-- Whichever secret comes last, a secret without rivals is found; one with a rival is not when that
comes last. -/
theorem forall_binds_iff (hread : Assignment.readAll texts = .ok r.secrets)
    (hid : r.secrets.get? id = some value) :
    (∀ listing, listing.Perm r.secrets.entries →
        (dockerBuildOf r listing tag dockerfile).Binds id value) ↔
      Unrivalled r.secrets id value := by
  constructor
  · intro h id' value' hid' halike
    have hmem := Table.mem_entries_iff.2 hid'
    have hlast := h (r.secrets.entries.erase (id', value') ++ [(id', value')])
      ((List.perm_append_singleton _ _).trans (List.perm_cons_erase hmem).symm)
    rw [binds_iff hread hid, secretVariable_eq_iff.2 halike, get?_variablesOf_concat] at hlast
    exact Option.some.inj hlast
  · intro h listing hlisting
    exact binds_of_unrivalled hread hlisting hid h

/-- A build finds all secrets that were read for it exactly if those with different values have
names that are told apart, and so it is whatever order the secrets come in. A single secret is found
in every order exactly if there is no other value for a name alike its own. -/
theorem bound_iff_apart (r : BuildRequest) (tag dockerfile : String) (texts : List String)
    (hread : Assignment.readAll texts = .ok r.secrets) :
    ((dockerBuild r tag dockerfile).BindsAll r.secrets ↔ Apart r.secrets) ∧
      (∀ listing, listing.Perm r.secrets.entries →
        ((dockerBuildOf r listing tag dockerfile).BindsAll r.secrets ↔ Apart r.secrets)) ∧
      ∀ id value, r.secrets.get? id = some value →
        ((∀ listing, listing.Perm r.secrets.entries →
            (dockerBuildOf r listing tag dockerfile).Binds id value) ↔
          Unrivalled r.secrets id value) := by
  refine ⟨?_, ?_, ?_⟩
  · rw [← dockerBuildOf_entries]
    exact bindsAll_iff hread (.refl _)
  · intro listing hlisting
    exact bindsAll_iff hread hlisting
  · intro id value hid
    exact forall_binds_iff hread hid

namespace Example

/-- Secrets with names that only differ in what a variable does not keep. -/
def tokens : BuildRequest where
  app := request.app
  workingDir := "."
  secrets := .ofList [("npm-token", "a"), ("npm_token", "b")]

example : (dockerBuild tokens "api:v1" "Dockerfile").env.entries =
    [("DOCKER_BUILDKIT", "1"), ("HANGAR_BUILD_SECRET_NPM_TOKEN", "b")] := by
  decide +kernel

theorem readAll_tokens :
    Assignment.readAll ["npm-token=a", "npm_token=b"] = .ok tokens.secrets := by
  decide +kernel

theorem alike_tokens : Alike "npm-token" "npm_token" :=
  secretVariable_eq_iff.1 (by decide +kernel)

end Example

/-- Each of the tokens is said to be in the one variable, and so `npm-token` is not found. -/
theorem example_rivalled :
    Assignment.readAll ["npm-token=a", "npm_token=b"] = .ok Example.tokens.secrets ∧
      ¬(dockerBuild Example.tokens "api:v1" "Dockerfile").BindsAll Example.tokens.secrets := by
  refine ⟨Example.readAll_tokens, ?_⟩
  rw [(bound_iff_apart Example.tokens "api:v1" "Dockerfile" _ Example.readAll_tokens).1]
  intro h
  exact absurd (h "npm-token" "a" (by decide +kernel) "npm_token" "b" (by decide +kernel)
    Example.alike_tokens) (by decide)

/-- Not every build finds its secrets. -/
theorem secrets_may_be_mixed_up :
    ¬∀ (r : BuildRequest) (tag dockerfile : String) (texts : List String),
      Assignment.readAll texts = .ok r.secrets →
        (dockerBuild r tag dockerfile).BindsAll r.secrets := by
  intro h
  obtain ⟨var, hvar, hvalue⟩ := h Example.tokens "api:v1" "Dockerfile" _ Example.readAll_tokens
    "npm-token" "a" (by decide +kernel)
  have hname : "HANGAR_BUILD_SECRET_NPM_TOKEN" = var := (hvar _).1 (by decide +kernel)
  rw [← hname] at hvalue
  exact absurd hvalue (by decide +kernel)

end AppDeploy.Command
