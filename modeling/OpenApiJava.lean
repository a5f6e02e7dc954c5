import OpenApiJava.Main
import OpenApiJava.Proofs.ClassNames
import OpenApiJava.Proofs.ConstantReading
import OpenApiJava.Proofs.Descriptions
import OpenApiJava.Proofs.LoadFaults
import OpenApiJava.Proofs.MethodNames
import OpenApiJava.Proofs.MissingServers
import OpenApiJava.Proofs.NormalForms
import OpenApiJava.Proofs.Overwriting
import OpenApiJava.Proofs.PackageClosure
import OpenApiJava.Proofs.PackageFolders
import OpenApiJava.Proofs.ReferenceChains
import OpenApiJava.Proofs.SchemaOrder
import OpenApiJava.Proofs.ServiceComments
import OpenApiJava.Proofs.ServiceUrls
import OpenApiJava.Proofs.UnreadKeys
import OpenApiJava.Proofs.SharedNames
import OpenApiJava.Proofs.DeclaredNames
import OpenApiJava.Proofs.CallNames
import OpenApiJava.Proofs.TagGroups
import OpenApiJava.Proofs.BodyTypes
import OpenApiJava.Proofs.TypeLists
import OpenApiJava.Proofs.MethodKeys
import OpenApiJava.Proofs.SchemaClasses
import OpenApiJava.Proofs.CollectedCalls
import OpenApiJava.Proofs.OrdinaryPaths
import OpenApiJava.Proofs.UrlExpansion
import OpenApiJava.Proofs.RequestBodies
import OpenApiJava.Proofs.ServerUrlParts
import OpenApiJava.Proofs.FileCounts
import OpenApiJava.Proofs.JavaIdentifiers
import OpenApiJava.Proofs.StringLiterals
import OpenApiJava.Proofs.CommentWords
