import StackSynth.Proofs.Build.References
import StackSynth.Proofs.Configuration.Loading

namespace StackSynth

namespace Marker

theorem parse?_reference (s : String) : parse? ("ref:" ++ s) = some (ofReference s.toList) := by
  have hsecret : "secret:".toList.isPrefixOf? ("ref:".toList ++ s.toList) = none := rfl
  have href : "ref:".toList.isPrefixOf? ("ref:".toList ++ s.toList) = some s.toList := rfl
  rw [parse?, String.toList_append, hsecret, href]
  rfl

theorem parse?_name {name : String} (h : '.' ∉ name.toList) :
    parse? ("ref:" ++ name) = some (.reference name defaultAttribute) := by
  rw [parse?_reference, ofReference, Text.cutFirst?_eq_none_iff.mpr h]
  simp

theorem parse?_name_path {name : String} (path : String) (h : '.' ∉ name.toList) :
    parse? ("ref:" ++ name ++ "." ++ path) = some (.reference name path) := by
  have hlist : (name ++ "." ++ path).toList = name.toList ++ '.' :: path.toList := by simp
  rw [String.append_assoc, String.append_assoc, parse?_reference, ← String.append_assoc, hlist,
    ofReference, Text.cutFirst?_append_cons _ h]
  simp

theorem parse?_dotted {name : String} (h : '.' ∈ name.toList) :
    ∃ first rest, name = first ++ "." ++ rest ∧ '.' ∉ first.toList ∧
      parse? ("ref:" ++ name) = some (.reference first rest) := by
  cases hcut : Text.cutFirst? '.' name.toList with
  | none => exact absurd h (Text.cutFirst?_eq_none_iff.mp hcut)
  | some parts =>
    obtain ⟨first, rest⟩ := parts
    obtain ⟨hname, hfirst⟩ := Text.cutFirst?_eq_some hcut
    refine ⟨String.ofList first, String.ofList rest, ?_, by simpa using hfirst, ?_⟩
    · apply String.toList_inj.mp
      simp [hname]
    · rw [parse?_reference, ofReference, hcut]

end Marker

/-- What a later declaration gets for the name of a construct. -/
structure Recalled (registry : Registry) (block : Block) : Prop where
  /-- By its name alone the `id`, without a warning. -/
  id_eq : '.' ∉ block.label.toList →
    resolveString registry ("ref:" ++ block.label) = .done (.string (block.reference "id"))
  /-- By its name and a path of plain names the attribute. -/
  attribute_eq : '.' ∉ block.label.toList → ∀ path, Text.IsAttributePath path.toList →
    (resolveString registry ("ref:" ++ block.label ++ "." ++ path)).result =
      .ok (.string (block.reference path))
  /-- A name with a dot is cut at the first one, and never leads to the `id`. -/
  dotted : '.' ∈ block.label.toList → ∃ first rest,
    block.label = first ++ "." ++ rest ∧ '.' ∉ first.toList ∧
    Marker.parse? ("ref:" ++ block.label) = some (.reference first rest) ∧
    (resolveString registry ("ref:" ++ block.label)).result ≠ .ok (.string (block.reference "id"))

theorem recalled_of_find? {registry : Registry} {block : Block} {handle : Handle}
    (constructs : registry.FromConstructs) (hfind : registry.find? block.label = some handle)
    (hisFor : handle.IsFor block) : Recalled registry block where
  id_eq h := by
    simp only [resolveString, Marker.parse?_name h, Marker.resolve, hfind, hisFor.direct?_id]
  attribute_eq h path hpath := by
    simp only [resolveString, Marker.parse?_name_path path h, Marker.resolve, hfind]
    split
    · next value hdirect =>
      rw [(hisFor.direct?_eq hdirect).1]
      rfl
    · rw [hisFor.byName_of_isAttributePath hpath]
      rfl
  dotted h := by
    obtain ⟨first, rest, hlabel, hfirst, hparse⟩ := Marker.parse?_dotted h
    refine ⟨first, rest, hlabel, hfirst, hparse, fun hresolve => ?_⟩
    rw [resolveString, hparse] at hresolve
    cases hother : registry.find? first with
    | none => simp [Marker.resolve, hother] at hresolve
    | some found =>
      obtain ⟨other, rfl, hfound⟩ := constructs first found hother
      have hreference : block.reference "id" = other.reference rest :=
        Value.string.inj (hfound.resolve_eq hother hresolve)
      -- both references are to the same text behind the type, but one has an `id` more
      have hparts :=
        (Block.reference_eq_reference hisFor.type_plain hfound.type_plain hreference).2.2
      rw [← hlabel] at hparts
      have hlength := congrArg (fun s : String => s.toList.length) hparts
      simp at hlength

/-- In a build of a configuration on a stack of its region, a resource that was built is recalled by
every later declaration, as the construct that was recorded for it. -/
theorem build_recalled {document : Document} {configuration : Configuration} {stack : Stack}
    (hdocument : Configuration.ofDocument document = .ok configuration)
    (hstack : Stack.new configuration.context.region = .ok stack) (diagnostics : Diagnostics) :
    let report := (build Stack.backend configuration.context configuration.declarations stack
      diagnostics).1
    let final := (build Stack.backend configuration.context configuration.declarations stack
      diagnostics).2.1
    ∀ i j declaration, i < j → configuration.declarations[i]? = some declaration →
      BuiltAt report.outcomes i declaration.name →
      ∃ terraformType body,
        RecordedAt configuration.context configuration.declarations stack i
          ⟨declaration.kind, terraformType, declaration.name, body⟩ ∧
        final.body? declaration.kind terraformType declaration.name = some body ∧
        Recalled
          (registryAfter Stack.backend configuration.context configuration.declarations stack j)
          ⟨declaration.kind, terraformType, declaration.name, body⟩ := by
  have hreachable : stack.Reachable := .new hstack
  obtain ⟨context, declarations⟩ := configuration
  intro report final i j declaration hlt hi hbuiltAt
  have hfinal : final.Tidy := (hreachable.build context declarations diagnostics).tidy
  obtain ⟨attempts, state, noted, rfl, course, hbuild⟩ :=
    build_course Stack.backend context declarations stack diagnostics
  have hlisting : final.listing = state.listing := by
    simp only [final, hbuild, Stack.listing_publishAll]
  obtain ⟨attempted, hattempted, rfl⟩ : ∃ attempted, attempts[i]? = some attempted ∧
      attempted.declaration = declaration := by
    simpa using hi
  have hbuilt : attempted.built = true := by
    have houtcomes : report.outcomes = attempts.map (Attempt.outcome context) := by
      simp only [report, hbuild]
    rw [houtcomes, builtAt_outcomes hattempted] at hbuiltAt
    exact hbuiltAt.2
  obtain ⟨args, ⟨kind, terraformType, label, body⟩, handle, _, rfl, rfl, rfl, hhandle, hisFor,
    hrecorded, hmem⟩ := course.recordedAt hreachable hattempted hbuilt
  refine ⟨terraformType, _, hrecorded, ?_, ?_⟩
  · rw [hfinal.body?_eq_some_iff, hlisting]
    exact hmem
  rw [course.registryAfter_eq]
  obtain ⟨_, hearlier⟩ := course.take j
  refine recalled_of_find? (hearlier.fromConstructs hreachable) ?_ hisFor
  -- names are registered once, so what is found is the handle of this very attempt
  have hearly : attempted ∈ attempts.take j := by
    apply List.mem_of_getElem? (i := i)
    rw [List.getElem?_take_of_lt hlt, hattempted]
  exact (find?_builtBy_eq_some_iff hearlier.names_nodup).mpr ⟨attempted, hearly, rfl, hhandle⟩

/-- A network, and a subnet that refers to it by its name and by its tag. -/
theorem build_recalled_network :
    let document : Document := .mapping [
      (.string "team", .string "core"), (.string "service", .string "shop"),
      (.string "environment", .string "dev"), (.string "region", .string "eu-west-1"),
      (.string "aws_resources", .sequence [
        .mapping [(.string "name", .string "main"), (.string "type", .string "vpc.Vpc")],
        .mapping [(.string "name", .string "inner"), (.string "type", .string "subnet.Subnet"),
          (.string "args", .mapping [(.string "vpc_id", .string "ref:main")])]])]
    let configuration : Configuration := ⟨⟨"core", "shop", "dev", "eu-west-1", []⟩, [
      ⟨"main", "vpc.Vpc", [], none, false⟩,
      ⟨"inner", "subnet.Subnet", [("vpc_id", .string "ref:main")], none, false⟩]⟩
    let stack : Stack := { region := "eu-west-1" }
    let report := (build Stack.backend configuration.context configuration.declarations stack {}).1
    let final := (build Stack.backend configuration.context configuration.declarations stack {}).2.1
    Configuration.ofDocument document = .ok configuration ∧
      Stack.new configuration.context.region = .ok stack ∧ BuiltAt report.outcomes 0 "main" ∧
      '.' ∉ "main".toList ∧
      ∃ terraformType body,
        RecordedAt configuration.context configuration.declarations stack 0
          ⟨.resource, terraformType, "main", body⟩ ∧
        final.body? .resource terraformType "main" = some body ∧
        Recalled
          (registryAfter Stack.backend configuration.context configuration.declarations stack 1)
          ⟨.resource, terraformType, "main", body⟩ := by
  intro document configuration stack report final
  have hdocument : Configuration.ofDocument document = .ok configuration := by rfl
  have hstack : Stack.new "eu-west-1" = .ok stack := by rfl
  have hbuilt : BuiltAt report.outcomes 0 "main" := by decide +kernel
  have hname : '.' ∉ "main".toList := by decide
  exact ⟨hdocument, hstack, hbuilt, hname,
    build_recalled hdocument hstack {} 0 1 _ (by decide) rfl hbuilt⟩

/-- A network with a dot in its name, which a subnet cannot refer to: the network is built, the name
of it in the reference is read as a shorter one that nothing has, and the subnet is not built. -/
theorem build_not_recalled :
    let document : Document := .mapping [
      (.string "team", .string "core"), (.string "service", .string "shop"),
      (.string "environment", .string "dev"), (.string "region", .string "eu-west-1"),
      (.string "aws_resources", .sequence [
        .mapping [(.string "name", .string "net.main"), (.string "type", .string "vpc.Vpc")],
        .mapping [(.string "name", .string "inner"), (.string "type", .string "subnet.Subnet"),
          (.string "args", .mapping [(.string "vpc_id", .string "ref:net.main")])]])]
    let network : Declaration := ⟨"net.main", "vpc.Vpc", [], none, false⟩
    let subnet : Declaration :=
      ⟨"inner", "subnet.Subnet", [("vpc_id", .string "ref:net.main")], none, false⟩
    let context : Context := ⟨"core", "shop", "dev", "eu-west-1", []⟩
    let stack : Stack := { region := "eu-west-1" }
    let report := (build Stack.backend context [network, subnet] stack {}).1
    Configuration.ofDocument document = .ok ⟨context, [network, subnet]⟩ ∧
      Stack.new context.region = .ok stack ∧ BuiltAt report.outcomes 0 "net.main" ∧
      (resolveString (registryAfter Stack.backend context [network, subnet] stack 1)
        ("ref:" ++ "net.main")).failure? = some (.referenceNotFound "net") ∧
      ¬ BuiltAt report.outcomes 1 "inner" := by
  intro document network subnet context stack report
  have hdocument : Configuration.ofDocument document = .ok ⟨context, [network, subnet]⟩ := by rfl
  have hstack : Stack.new "eu-west-1" = .ok stack := by rfl
  have hbuilt : BuiltAt report.outcomes 0 "net.main" := by decide +kernel
  exact ⟨hdocument, hstack, hbuilt, by decide +kernel, by decide +kernel⟩

end StackSynth
