import Verdict.CommandLine.Validation

/-!
# Carrying out requests

## Main definitions

* `Verdict.Invocation.perform` — what an invocation does under a configuration.
* `Verdict.Invocation.carryOut` — what an invocation does.
* `Verdict.Invocation.configurationPaths`, `Verdict.Invocation.requestPaths` — all the paths that it
  looks at.
-/

namespace Verdict

/-- The built-in rules with their messages. -/
def builtinRules : List (String × Option String) :=
  (Registry.builtins (ρ := Record)).names.map fun name => (name, Messages.builtin.get? name)

/-- List the built-in rules. -/
def listRules (p : Presentation) : Report :=
  { output :=
      if p.isHuman then
        p.heading "Built-in Rules" ++
          p.table ["Rule", "Default message"]
            (builtinRules.map fun rule => [rule.1, rule.2.getD ""])
      else
        p.data (.arr (builtinRules.map fun rule =>
          .obj (("name", .str rule.1) :: Configuration.textMember "message" rule.2))) }

/-- Write a configuration without changes, but not over an existing one unless forced to. -/
def initConfiguration (around : Surroundings) (p : Presentation) (user force : Bool) : Course :=
  match if user then around.userDirectory?.map fun d => Path.join d "config.toml"
    else some Surroundings.localPath with
  | none => .done { result := .error .noUserDirectory }
  | some path =>
    if (around.entry? path).isSome && !force then
      .done { output :=
        p.warning ("Config already exists at " ++ path ++ " (use --force to overwrite)") }
    else
      match ({} : Configuration).render? (Configuration.formatFor path) with
      | none => .done { result := .error .inexpressible }
      | some text =>
        .store path text fun stored =>
          if stored then
            { output := p.success ("✓ Created config at " ++ path) ++
                p.info "Edit it to customize validation, output and logging defaults." }
          else { result := .error (.inaccessible path) }

/-- Show a configuration. -/
def showConfiguration (c : Configuration) (format : DataFormat) : Report :=
  match c.render? format with
  | some text => { output := Presentation.endLine text }
  | none => { result := .error .inexpressible }

/-- Show where a configuration is looked for. -/
def listSearchPaths (around : Surroundings) (p : Presentation) : Report :=
  { output :=
      p.heading "Configuration Search Paths" ++
        String.join (around.searchPaths.map fun path =>
          Presentation.line ((if (around.entry? path).isSome then "✓ " else "✗ ") ++ path)) ++
        ((around.environment Invocation.configVariable).map fun path =>
          p.info (Invocation.configVariable ++ " = " ++ path)).getD "" }

namespace Invocation

/-- How an invocation presents its output. -/
def presentation (i : Invocation) (c : Configuration) (color : Bool) : Presentation :=
  { format := i.output?.getD c.output.format, color := color, quiet := i.quiet }

/-- What an invocation does under a configuration. Completions are no output of the program but a
script for somebody else. -/
def perform (i : Invocation) (around : Surroundings) (c : Configuration) (color : Bool) : Course :=
  let p := i.presentation c color
  match i.request with
  | .validate request => .done (request.carryOut c.validation around p)
  | .rules => .done (listRules p)
  | .initConfig user force => initConfiguration around p user force
  | .showConfig format => .done (showConfiguration c format)
  | .configPaths => .done (listSearchPaths around p)
  | .completions _ => .done {}

/-- What an invocation does. -/
def carryOut (i : Invocation) (around : Surroundings) (color : Bool) : Course :=
  match around.configuration i.config? with
  | .error failure => .done { result := .error failure }
  | .ok c => i.perform around c color

/-- The paths that an invocation looks at before it has a configuration. -/
def configurationPaths (i : Invocation) (around : Surroundings) : List String :=
  i.config?.toList ++ around.searchPaths

/-- The other paths that an invocation looks at under a configuration. -/
def requestPaths (i : Invocation) (c : Configuration) : List String :=
  match i.request with
  | .validate r =>
    [r.document, r.schema] ++ (r.messages? <|> c.validation.messages?).toList
  | _ => []

end Invocation

end Verdict
