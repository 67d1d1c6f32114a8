/-
This file writes the definition of the gateway resource as the file that is given to the cluster,
together with what is said on the way.
-/

import GatewayOperator.Definition.Gateway
import GatewayOperator.Yaml.Printer

namespace GatewayOperator.Definition

/-- The directory of the file. -/
def directory : String := "deploy/crds"

/-- The name of the file. -/
def fileName : String := "apicasts.crd.yaml"

/-- The comment at the top of the file. -/
def header : String :=
  String.join
    ["# Copyright (c) 2025 Erick Bourgeois, firestoned\n", "# SPDX-License-Identifier: MIT\n",
      "#\n", "# This file is AUTO-GENERATED from src/crd.rs\n",
      "# DO NOT EDIT MANUALLY - Run `cargo run --bin crdgen` to regenerate\n", "#\n"]

/-- The content of the file. The members of every object are in the order of the alphabet. -/
def manifest : String :=
  header ++ Yaml.document (json columns).normalize

/-- What is said before the file is written. -/
def announcement : String := "Generating CRD YAML files from src/crd.rs...\n"

/-- What is said when the file is written. -/
def conclusion : String :=
  String.join
    ["  ✓ Generated " ++ fileName ++ "\n",
      "✓ Successfully generated CRD YAML files in " ++ directory ++ "/\n", "\n", "Next steps:\n",
      "  1. Review the generated files\n",
      "  2. Deploy with: kubectl apply -f " ++ directory ++ "/\n"]

end GatewayOperator.Definition
