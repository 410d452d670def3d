import AttestedUplink.Certificate.Oid

namespace AttestedUplink

/-!
# Labels of attribute types

An attribute of a name is shown with a label that its type gives. Common attribute types have short
labels. The identifiers of algorithms, extensions and other things have labels too, since nothing
keeps them from standing in the place of an attribute type.
-/

namespace AttributeLabel

/-- Labels of identifiers that differ only in their last number. -/
structure Family where
  path : List Nat
  members : List (Nat × String)

def attributes : List Family :=
  [⟨[2, 5], [(4, "x509")]⟩,
   ⟨[2, 5, 4],
    [(0, "objectClass"), (1, "aliasedEntryName"), (2, "knowledgeInformation"), (3, "CN"),
     (4, "surname"), (5, "serialNumber"), (6, "C"), (7, "L"), (8, "ST"), (9, "streetAddress"),
     (10, "O"), (11, "OU"), (12, "title"), (13, "description"), (14, "searchGuide"),
     (15, "businessCategory"), (16, "postalAddress"), (17, "postalCode"), (41, "name"),
     (42, "givenName"), (43, "initials"), (44, "generationQualifier"), (45, "uniqueIdentifier"),
     (46, "dnQualifier")]⟩,
   ⟨[0, 9, 2342, 19200300, 100, 1], [(1, "uid"), (25, "DC")]⟩,
   ⟨[1, 3, 6, 1, 4, 1, 311, 60, 2, 1],
    [(1, "msJurisdictionLocality"), (2, "msJurisdictionStateOrProvince"),
     (3, "msJurisdictionCountry")]⟩]

def messages : List Family :=
  [⟨[1, 2, 840, 113549, 1, 7],
    [(1, "pkcs7-data"), (2, "pkcs7-signedData"), (3, "pkcs7-envelopedData"),
     (4, "pkcs7-signedAndEnvelopedData"), (5, "pkcs7-digestedData"), (6, "pkcs7-encryptedData")]⟩,
   ⟨[1, 2, 840, 113549, 1, 9],
    [(1, "Email"), (2, "unstructuredName"), (3, "contentType"), (4, "id-messageDigest"),
     (5, "signing-time"), (7, "challengePassword"), (14, "extensionRequest"),
     (15, "smimeCapabilities"), (20, "friendlyName")]⟩,
   ⟨[1, 2, 840, 113549, 1], [(12, "pkcs-12")]⟩,
   ⟨[1, 2, 840, 113549, 1, 12], [(1, "pkcs-12PbeIds")]⟩,
   ⟨[1, 2, 840, 113549, 1, 12, 1],
    [(1, "pbeWithSHAAnd128BitRC4"), (2, "pbeWithSHAAnd40BitRC4"),
     (3, "pbeWithSHAAnd3-KeyTripleDES-CBC"), (4, "pbeWithSHAAnd2-KeyTripleDES-CBC"),
     (5, "pbeWithSHAAnd128BitRC2-CBC"), (6, "pbeWithSHAAnd40BitRC2-CBC")]⟩]

def algorithms : List Family :=
  [⟨[1, 2, 643, 2, 2],
    [(3, "id-GostR3411-94-with-GostR3410-2001"), (19, "gostR3410-2001")]⟩,
   ⟨[1, 2, 643, 7, 1, 1, 1], [(1, "gost3410-2012-256"), (2, "gost3410-2012-512")]⟩,
   ⟨[1, 2, 643, 7, 1, 1, 3],
    [(2, "id-tc26-signwithdigest-gost3410-12-256"),
     (3, "id-tc26-signwithdigest-gost3410-12-512")]⟩,
   ⟨[1, 2, 840, 10040, 4], [(1, "id-dsa"), (3, "dsa-with-sha1")]⟩,
   ⟨[1, 2, 840, 10045, 2], [(1, "id-ecPublicKey")]⟩,
   ⟨[1, 2, 840, 10045, 3, 1], [(7, "prime256v1")]⟩,
   ⟨[1, 2, 840, 10045, 4, 3],
    [(1, "ecdsa-with-SHA224"), (2, "ecdsa-with-SHA256"), (3, "ecdsa-with-SHA384"),
     (4, "ecdsa-with-SHA512")]⟩,
   ⟨[1, 2, 840, 113549, 1, 1],
    [(1, "rsaEncryption"), (2, "md2WithRSAEncryption"), (3, "md4WithRSAEncryption"),
     (4, "md5WithRSAEncryption"), (5, "sha1WithRSAEncryption"), (8, "id-mgf1"), (10, "rsassa-pss"),
     (11, "sha256WithRSAEncryption"), (12, "sha384WithRSAEncryption"),
     (13, "sha512WithRSAEncryption"), (14, "sha224WithRSAEncryption")]⟩,
   ⟨[1, 3, 14, 3, 2],
    [(25, "md5WithRSASignature"), (26, "id-SHA1"), (29, "sha1WithRSAEncryption")]⟩,
   ⟨[1, 3, 36, 3, 3, 1], [(2, "rsaSignatureWithripemd160")]⟩,
   ⟨[1, 3, 101], [(112, "ed25519"), (113, "ed448")]⟩,
   ⟨[1, 3, 132, 0], [(34, "secp384r1"), (35, "secp521r1")]⟩,
   ⟨[1, 3, 133, 16, 840, 63, 0], [(2, "dhSinglePass-stdDH-sha1kdf-scheme")]⟩,
   ⟨[2, 16, 840, 1, 101, 3, 4, 1], [(42, "aes-256-cbc")]⟩,
   ⟨[2, 16, 840, 1, 101, 3, 4, 2], [(1, "sha256"), (2, "sha384"), (3, "sha512")]⟩]

def extensions : List Family :=
  [⟨[2, 5, 29],
    [(1, "oldAuthorityKeyIdentifier"), (2, "oldKeyAttributes"), (3, "oldCertificatePolicies"),
     (4, "oldKeyUsage"), (5, "oldPolicyMapping"), (6, "oldSubtreesConstraint"),
     (7, "oldSubjectAltNAme"), (8, "oldIssuerAltNAme"), (14, "subjectKeyIdentifier"),
     (15, "keyUsage"), (16, "privateKeyUsagePeriod"), (17, "subjectAltName"),
     (18, "issuerAltName"), (19, "basicConstraints"), (20, "crlNumber"), (21, "reasonCode"),
     (23, "holdInstructionCode"), (24, "invalidityDate"), (27, "deltaCRLIndicator"),
     (28, "issuerDistributionPoint"), (29, "issuer"), (30, "nameConstraints"),
     (31, "crlDistributionPoints"), (32, "certificatePolicies"), (33, "policyMappings"),
     (35, "authorityKeyIdentifier"), (36, "policyConstraints"), (37, "extendedKeyUsage"),
     (46, "freshestCRL"), (54, "inhibitantAnyPolicy")]⟩,
   ⟨[1, 3, 6, 1, 5, 5, 7, 1], [(1, "authorityInfoAccess")]⟩,
   ⟨[1, 3, 6, 1, 5, 5, 7, 48],
    [(1, "id-ad-ocsp"), (2, "id-ad-caIssuers"), (3, "id-ad-timestamping"), (4, "id-ad-dvcs"),
     (5, "id-ad-caRepository"), (6, "id-ad-http-certs"), (7, "id-ad-http-crls"),
     (10, "id-ad-rpki-manifest"), (11, "id-ad-signed-object"), (12, "id-ad-cmc"),
     (13, "id-ad-rpki-notify"), (14, "id-ad-stirTNList")]⟩,
   ⟨[1, 3, 6, 1, 4, 1, 11129, 2, 4], [(2, "ctSCTList")]⟩,
   ⟨[2, 16, 840, 1, 113730, 1],
    [(1, "nsCertType"), (2, "nsBaseURL"), (3, "nsRevocationURL"), (4, "nsCARevocationURL"),
     (5, "nsCACRLURL"), (6, "nsCACertURL"), (7, "nsRenewalURL"), (8, "nsCAPolicyURL"),
     (9, "nsHomepageURL"), (10, "nsEntityLogo"), (11, "nsUserPicture"), (12, "nsSSLServerName"),
     (13, "nsComment")]⟩]

def Family.labels (family : Family) : List (Oid × String) :=
  family.members.map fun (last, label) => (Oid.ofNumbers (family.path ++ [last]), label)

def all : List (Oid × String) :=
  (attributes ++ messages ++ algorithms ++ extensions).flatMap Family.labels

end AttributeLabel

def Oid.label (oid : Oid) : String := (AttributeLabel.all.lookup oid).getD s!"OID({oid.text})"

end AttestedUplink
