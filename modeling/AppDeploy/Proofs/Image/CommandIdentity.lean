import AppDeploy.Proofs.Assignment.Spelling
import AppDeploy.Proofs.Image.CommandLine

/-!
# What the command line of a build tells apart

The arguments and secrets of a build come in no order; they are sorted, and so there is one command
line for them (`dockerBuildArgsOf_eq`). It lists each of them once (`ListedInOrder`). Nothing in it
can be read in two ways: as long as no name contains an equals sign, requests with the same command
line ask for the same build (`command_line_tells_build`).
-/

namespace AppDeploy.Command

/-! ## Any order -/

/-- The order of entries: by name, and then by value. -/
def entryLe (a b : String × String) : Bool :=
  decide (a.1 < b.1 ∨ a.1 = b.1 ∧ a.2 ≤ b.2)

/-- The arguments of a docker build whose own arguments and names of secrets are given in some
order. -/
def dockerBuildArgsOf (r : BuildRequest) (pairs : List (String × String)) (ids : List String)
    (tag dockerfile : String) : List String :=
  ["build", "--tag", tag, "--file", dockerfile, "--label", s!"{appLabel}={r.app.text}"] ++
  (pairs.mergeSort entryLe).flatMap (fun (name, value) => ["--build-arg", s!"{name}={value}"]) ++
  (ids.mergeSort fun a b => decide (a ≤ b)).flatMap
    (fun id => ["--secret", s!"id={id},env={secretVariable id}"]) ++
  optionalOption "--target" r.target ++ switch "--no-cache" r.noCache ++ [r.workingDir]

theorem entryLe_trans (a b c : String × String) (hab : entryLe a b = true)
    (hbc : entryLe b c = true) : entryLe a c = true := by
  simp only [entryLe, decide_eq_true_eq] at hab hbc ⊢
  rcases hab with hab | ⟨hab, hab'⟩
  · rcases hbc with hbc | ⟨hbc, -⟩
    · exact .inl (String.lt_trans hab hbc)
    · exact .inl (hbc ▸ hab)
  · rw [hab]
    exact hbc.imp_right fun ⟨hbc, hbc'⟩ => ⟨hbc, String.le_trans hab' hbc'⟩

theorem entryLe_total (a b : String × String) : (entryLe a b || entryLe b a) = true := by
  simp only [entryLe, Bool.or_eq_true, decide_eq_true_eq]
  by_cases hlt : a.1 < b.1
  · exact .inl (.inl hlt)
  · by_cases heq : a.1 = b.1
    · exact (String.le_total a.2 b.2).imp (fun h => .inr ⟨heq, h⟩) fun h => .inr ⟨heq.symm, h⟩
    · exact .inr (.inl (Table.lt_of_not_lt_of_ne hlt heq))

theorem entryLe_antisymm (a b : String × String) (hab : entryLe a b = true)
    (hba : entryLe b a = true) : a = b := by
  simp only [entryLe, decide_eq_true_eq] at hab hba
  rcases hab with hab | ⟨hab, hab'⟩
  · rcases hba with hba | ⟨hba, -⟩
    · exact absurd (String.lt_trans hab hba) (String.lt_irrefl _)
    · exact absurd (hba ▸ hab) (String.lt_irrefl _)
  · rcases hba with hba | ⟨-, hba'⟩
    · exact absurd (hab ▸ hba) (String.lt_irrefl _)
    · exact Prod.ext hab (String.le_antisymm hab' hba')

/-- A list that is in order already is what any rearrangement of it is sorted to. -/
theorem mergeSort_eq_of_perm {α : Type} {le : α → α → Bool}
    (htrans : ∀ a b c, le a b = true → le b c = true → le a c = true)
    (htotal : ∀ a b, (le a b || le b a) = true)
    (hantisymm : ∀ a b, le a b = true → le b a = true → a = b) {l sorted : List α}
    (h : l.Perm sorted) (hsorted : sorted.Pairwise fun a b => le a b = true) :
    l.mergeSort le = sorted :=
  List.Perm.eq_of_pairwise (fun a b _ _ => hantisymm a b) (List.pairwise_mergeSort htrans htotal l)
    hsorted ((List.mergeSort_perm l le).trans h)

theorem dockerBuildArgsOf_eq {r : BuildRequest} {pairs : List (String × String)}
    {ids : List String} (hpairs : pairs.Perm r.args.entries) (hids : ids.Perm r.secrets.keys)
    (tag dockerfile : String) :
    dockerBuildArgsOf r pairs ids tag dockerfile = dockerBuildArgs r tag dockerfile := by
  have hsortedPairs : pairs.mergeSort entryLe = r.args.entries := by
    refine mergeSort_eq_of_perm entryLe_trans entryLe_total entryLe_antisymm hpairs ?_
    exact r.args.sorted.imp fun h => decide_eq_true (.inl h)
  have hsortedIds : ids.mergeSort (fun a b => decide (a ≤ b)) = r.secrets.keys := by
    refine mergeSort_eq_of_perm ?_ ?_ ?_ hids ?_
    · simpa using fun a b c => String.le_trans
    · simpa using String.le_total
    · simpa using fun a b => String.le_antisymm
    · exact r.secrets.keys_sorted.imp fun h => decide_eq_true
        (String.not_lt.1 fun h' => String.lt_irrefl _ (String.lt_trans h h'))
  rw [dockerBuildArgsOf, hsortedPairs, hsortedIds]
  rfl

/-! ## What is listed -/

/-- A command line lists each argument and each secret of a build once, in the order of their
names, and ends with the directory to build in. -/
structure ListedInOrder (r : BuildRequest) (args : List String) : Prop where
  arguments : ∃ pairs : List (String × String),
    optionValues "--build-arg" args = pairs.map (fun (name, value) => s!"{name}={value}") ∧
      pairs.Pairwise (·.1 < ·.1) ∧
        ∀ name value, (name, value) ∈ pairs ↔ r.args.get? name = some value
  secrets : ∃ ids : List String,
    optionValues "--secret" args = ids.map (fun id => s!"id={id},env={secretVariable id}") ∧
      ids.Pairwise (· < ·) ∧ ∀ id, id ∈ ids ↔ r.secrets.get? id ≠ none
  directory : args.getLast? = some r.workingDir

theorem optionValues_dockerBuildArgs (r : BuildRequest) (tag dockerfile option : String) :
    optionValues option (dockerBuildArgs r tag dockerfile) =
      optionValues option (dockerBuildTail r tag dockerfile) := by
  rw [dockerBuildArgs_eq, dockerBuildTail, optionValues, if_neg (by decide)]

theorem listedInOrder_dockerBuildArgs (r : BuildRequest) (tag dockerfile : String) :
    ListedInOrder r (dockerBuildArgs r tag dockerfile) where
  arguments := by
    refine ⟨r.args.entries, ?_, r.args.sorted, fun name value => Table.mem_entries_iff⟩
    rw [optionValues_dockerBuildArgs, optionValues_dockerBuildTail]
    simp
  secrets := by
    refine ⟨r.secrets.keys, ?_, r.secrets.keys_sorted, fun id => Table.mem_keys_iff⟩
    rw [optionValues_dockerBuildArgs, optionValues_dockerBuildTail]
    simp
  directory := List.getLast?_concat

/-! ## What is told apart -/

/-- No name of an argument or secret contains an equals sign. -/
structure PlainNames (r : BuildRequest) : Prop where
  args : ∀ name ∈ r.args.keys, '=' ∉ name.toList
  secrets : ∀ id ∈ r.secrets.keys, '=' ∉ id.toList

/-- Two requests ask for the same build, the values of the secrets apart. -/
structure SameBuild (r r' : BuildRequest) : Prop where
  app : r.app = r'.app
  args : r.args = r'.args
  secrets : r.secrets.keys = r'.secrets.keys
  target : r.target = r'.target
  noCache : r.noCache = r'.noCache
  workingDir : r.workingDir = r'.workingDir

theorem eq_of_map_eq {α β : Type} {f : α → β} {l l' : List α} (h : l.map f = l'.map f)
    (hf : ∀ a ∈ l, ∀ b ∈ l', f a = f b → a = b) : l = l' := by
  induction l generalizing l' with
  | nil => exact (List.map_eq_nil_iff.1 h.symm).symm
  | cons a rest ih =>
    cases l' with
    | nil => cases h
    | cons b rest' =>
      obtain ⟨hhead, htail⟩ := List.cons.inj h
      rw [hf a List.mem_cons_self b List.mem_cons_self hhead, ih htail fun a ha b hb =>
        hf a (List.mem_cons_of_mem _ ha) b (List.mem_cons_of_mem _ hb)]

/-- An equals sign that is the first of a text divides it in one way only. -/
theorem eq_of_append_equals {before before' after after' : List Char}
    (h : before ++ '=' :: after = before' ++ '=' :: after') (hbefore : '=' ∉ before)
    (hbefore' : '=' ∉ before') : before = before' ∧ after = after' := by
  have hsplit := Assignment.split?_eq_some.2 ⟨h, hbefore'⟩
  rw [Assignment.split?_eq_some.2 ⟨rfl, hbefore⟩] at hsplit
  simpa using hsplit

theorem assignment_inj {name other value given : String}
    (h : s!"{name}={value}" = s!"{other}={given}") (hname : '=' ∉ name.toList)
    (hother : '=' ∉ other.toList) : name = other ∧ value = given := by
  have hchars : name.toList ++ '=' :: value.toList = other.toList ++ '=' :: given.toList := by
    simpa [toString] using congrArg String.toList h
  obtain ⟨hnames, hvalues⟩ := eq_of_append_equals hchars hname hother
  exact ⟨String.toList_inj.1 hnames, String.toList_inj.1 hvalues⟩

/-- The name of a secret in an option, with the variable that holds it. -/
theorem secretOption_inj {id other var held : String}
    (h : s!"id={id},env={var}" = s!"id={other},env={held}") (hid : '=' ∉ id.toList)
    (hother : '=' ∉ other.toList) : id = other ∧ var = held := by
  have hchars : (id.toList ++ [',', 'e', 'n', 'v']) ++ '=' :: var.toList =
      (other.toList ++ [',', 'e', 'n', 'v']) ++ '=' :: held.toList := by
    simpa [toString] using congrArg String.toList h
  have hplain {chars : List Char} (hchars : '=' ∉ chars) : '=' ∉ chars ++ [',', 'e', 'n', 'v'] := by
    simp [hchars]
  obtain ⟨hids, hvars⟩ := eq_of_append_equals hchars (hplain hid) (hplain hother)
  exact ⟨String.toList_inj.1 (List.append_cancel_right hids), String.toList_inj.1 hvars⟩

/-- The last arguments tell whether there is a switch before the directory. -/
theorem switch_inj {word dir dir' : String} {on on' : Bool}
    (h : switch word on ++ [dir] = switch word on' ++ [dir']) : on = on' ∧ dir = dir' := by
  cases on <;> cases on' <;> simp_all [switch]

theorem sameBuild_of_eq {r r' : BuildRequest} {tag tag' dockerfile dockerfile' : String}
    (hr : PlainNames r) (hr' : PlainNames r')
    (h : dockerBuildArgs r tag dockerfile = dockerBuildArgs r' tag' dockerfile') :
    SameBuild r r' ∧ tag = tag' ∧ dockerfile = dockerfile' := by
  have hvalues (option : String) := congrArg (optionValues option) h
  simp only [optionValues_dockerBuildArgs, optionValues_dockerBuildTail] at hvalues
  have htag : tag = tag' := by simpa using hvalues "--tag"
  have hdockerfile : dockerfile = dockerfile' := by simpa using hvalues "--file"
  have happ : r.app = r'.app := by
    apply AppName.ext_text
    simpa [toString, ← String.toList_inj] using hvalues "--label"
  have hentries : r.args.entries = r'.args.entries := by
    refine eq_of_map_eq (by simpa using hvalues "--build-arg") ?_
    rintro ⟨name, value⟩ hentry ⟨name', value'⟩ hentry' heq
    obtain ⟨rfl, rfl⟩ := assignment_inj heq (hr.args name (List.mem_map_of_mem hentry))
      (hr'.args name' (List.mem_map_of_mem hentry'))
    rfl
  have hkeys : r.secrets.keys = r'.secrets.keys := by
    refine eq_of_map_eq (by simpa using hvalues "--secret") ?_
    intro id hid id' hid' heq
    exact (secretOption_inj heq (hr.secrets id hid) (hr'.secrets id' hid')).1
  have htarget : r.target = r'.target := by
    have hlist : r.target.toList = r'.target.toList := by simpa using hvalues "--target"
    cases ht : r.target <;> cases ht' : r'.target <;> simp_all
  have hlast : switch "--no-cache" r.noCache ++ [r.workingDir] =
      switch "--no-cache" r'.noCache ++ [r'.workingDir] := by
    simpa [dockerBuildArgs, assignments, secretOptions, htag, hdockerfile, happ, hentries, hkeys,
      htarget] using h
  obtain ⟨hcache, hdir⟩ := switch_inj hlast
  exact ⟨⟨happ, Table.ext_entries hentries, hkeys, htarget, hcache, hdir⟩, htag, hdockerfile⟩

/-- However the arguments and secrets of a build come, its command line lists each of them once, in
order, and ends with the directory. Without equals signs in their names, which those that are read
from assignments never have, it tells all of the build but the values of the secrets. -/
theorem command_line_tells_build (r : BuildRequest) (tag dockerfile : String) :
    (∀ pairs ids, pairs.Perm r.args.entries → ids.Perm r.secrets.keys →
        dockerBuildArgsOf r pairs ids tag dockerfile = dockerBuildArgs r tag dockerfile) ∧
      ListedInOrder r (dockerBuildArgs r tag dockerfile) ∧
      (∀ r' tag' dockerfile', PlainNames r → PlainNames r' →
        dockerBuildArgs r tag dockerfile = dockerBuildArgs r' tag' dockerfile' →
          SameBuild r r' ∧ tag = tag' ∧ dockerfile = dockerfile') ∧
      ∀ texts read, Assignment.readAll texts = .ok read →
        ∀ name ∈ read.keys, '=' ∉ name.toList := by
  refine ⟨?_, listedInOrder_dockerBuildArgs r tag dockerfile, ?_, ?_⟩
  · intro pairs ids hpairs hids
    exact dockerBuildArgsOf_eq hpairs hids tag dockerfile
  · intro r' tag' dockerfile' hr hr' h
    exact sameBuild_of_eq hr hr' h
  · intro texts read h name hname
    exact Assignment.notMem_of_mem_keys h hname

namespace Example

/-- A build with arguments and a target that look like options. -/
def request : BuildRequest where
  app := ⟨"api", by decide +kernel⟩
  workingDir := "--file"
  args := .ofList [("LEVEL", "--target"), ("--build-arg", "A=1"), ("A", "")]
  secrets := .ofList [("npm-token", "a"), ("id,env", "b")]
  target := some "--no-cache"

example : dockerBuildArgs request "--tag" "" =
    ["build", "--tag", "--tag", "--file", "", "--label", "hangar.app=api",
      "--build-arg", "--build-arg=A=1", "--build-arg", "A=", "--build-arg", "LEVEL=--target",
      "--secret", "id=id,env,env=HANGAR_BUILD_SECRET_ID_ENV",
      "--secret", "id=npm-token,env=HANGAR_BUILD_SECRET_NPM_TOKEN",
      "--target", "--no-cache", "--file"] := by
  decide +kernel

theorem plainNames_request : PlainNames request :=
  ⟨by decide +kernel, by decide +kernel⟩

end Example

theorem example_tells_build :
    PlainNames Example.request ∧
      SameBuild Example.request { Example.request with
        secrets := .ofList [("id,env", "c"), ("npm-token", "d")], label := some "v1" } :=
  ⟨Example.plainNames_request,
    ((command_line_tells_build Example.request "--tag" "").2.2.1
      { Example.request with
        secrets := .ofList [("id,env", "c"), ("npm-token", "d")], label := some "v1" } "--tag" ""
      Example.plainNames_request ⟨by decide +kernel, by decide +kernel⟩ (by decide +kernel)).1⟩

end AppDeploy.Command
