/-
Environments: the variables a program is started with. The variables that are
looked at share one beginning of their names, and a flag is on when it is `1`
or `true` in letters of any case.
-/

namespace DocSearch

/-- The value of each variable that is set. -/
def Environment := String → Option String

namespace Environment

/-- The environment in which these variables are set, the first value of each. -/
def ofList (entries : List (String × String)) : Environment := fun name => entries.lookup name

/-- Sets a variable, or unsets it. -/
def update (env : Environment) (name : String) (value : Option String) : Environment :=
  fun other => if other = name then value else env other

theorem update_self (env : Environment) (name : String) (value : Option String) :
    env.update name value name = value := by simp [update]

theorem update_other (env : Environment) {name other : String} (value : Option String)
    (h : other ≠ name) : env.update name value other = env other := by simp [update, h]

/-- The name of the variable that holds a setting. -/
def variableName (setting : String) : String := "OPENSEQUEL_" ++ setting

/-- The value of a setting. -/
def setting? (env : Environment) (setting : String) : Option String := env (variableName setting)

/-- Whether a flag is on, if it is set at all. -/
def flag? (env : Environment) (setting : String) : Option Bool :=
  (env.setting? setting).map fun value => value = "1" || value.toLower = "true"

end Environment

end DocSearch
