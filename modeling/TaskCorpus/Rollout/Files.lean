import TaskCorpus.Rollout
import TaskCorpus.Store.Files

/-!
# Rollout configuration files
-/

namespace TaskCorpus.Rollout

def toolFileName : String := "tool_config.yaml"
def interactionFileName : String := "interaction_config.yaml"

/-- Writes a text over a file. -/
def writeText (p : Path) (text : String) : Program Unit :=
  Store.attempt (.writing p) (Store.writeFile p text.toUTF8)

/-- Writes both configurations into a directory, which is made if need be. -/
def writeFiles (catalog : Tool.Catalog) (interactionName : String) (s : Settings) (dir : Path) :
    Program (Path × Path) := do
  Store.attempt (.writing dir) (Store.makeDirectories dir)
  let tools := dir.join ⟨toolFileName⟩
  writeText tools (toolDocument (bindings catalog s.classPrefix))
  let interaction := dir.join ⟨interactionFileName⟩
  writeText interaction (Interaction.ofSettings interactionName s).document
  pure (tools, interaction)

end TaskCorpus.Rollout
