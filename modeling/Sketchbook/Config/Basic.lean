namespace Sketchbook

structure Config where
  packageName : String := "processing.test"
  entryMethod : String := "setup"
  indent : Nat := 2
  coreImports : List String :=
    ["processing.core.*", "processing.data.*", "processing.event.*", "processing.opengl.*"]
  defaultImports : List String :=
    ["java.util.HashMap", "java.util.ArrayList", "java.io.File", "java.io.BufferedReader",
      "java.io.PrintWriter", "java.io.InputStream", "java.io.OutputStream", "java.io.IOException"]
  extraImports : List String := []
  deriving Repr, DecidableEq

def Config.imports (c : Config) : List String := c.coreImports ++ c.defaultImports ++ c.extraImports

end Sketchbook
